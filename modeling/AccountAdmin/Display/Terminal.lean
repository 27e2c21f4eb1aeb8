import AccountAdmin.Console.Event
import AccountAdmin.Display.Grid
import AccountAdmin.Display.Paint
import AccountAdmin.Display.Row
import AccountAdmin.Json.Printer

/-!
# The terminal

Everything that the program prints is a list of pieces, each of which is data, a hint or a failure.
Data go to standard output, the rest to the error stream.  There are three formats.  In JSON,
standard output is kept for data: notices, which otherwise are data, become hints.

* `Terminal.rows`: a list of rows in the format of the terminal.
* `Terminal.render`: what is printed for an event.
-/

namespace AccountAdmin

/-- A format of data. -/
inductive Format where
  | table
  | json
  | plain
  deriving DecidableEq, Repr

/-- A piece of what is printed. -/
inductive Piece where
  /-- Printed on standard output. -/
  | data (text : String)
  /-- Printed on the error stream, though nothing is wrong. -/
  | hint (text : String)
  /-- Printed on the error stream, since something is wrong. -/
  | failure (text : String)
  /-- Printed on the error stream, since a command line could not be understood. -/
  | misuse
  deriving DecidableEq, Repr

/-- The format of data, and whether there are colours. -/
structure Terminal where
  format : Format := .plain
  colours : Bool := false
  deriving DecidableEq, Repr

namespace Terminal

/-- A text with the given looks. -/
def paint (t : Terminal) (paint : Paint) (s : String) : String := paint.apply t.colours s

/-- A line of data. -/
def line (s : String) : Piece := .data (s ++ "\n")

/-- A line that says that something is wrong. -/
def failed (t : Terminal) (s : String) : Piece :=
  .failure (t.paint .boldRed "Error:" ++ " " ++ s ++ "\n")

/-- A line with a hint. -/
def hint (t : Terminal) (looks : Paint) (s : String) : Piece := .hint (t.paint looks s ++ "\n")

/-- A JSON value as data. -/
def json (v : Json) : Piece := line v.indented

/-- The lines of a user in plain format. -/
def plainUser (t : Terminal) (r : UserRow) : List Piece :=
  let status := t.paint (if r.status = "active" then .green else .red) r.status
  [line ("[" ++ t.paint .cyan r.id ++ "] " ++ t.paint .bold ("@" ++ r.username) ++ " " ++
      r.displayName ++ " (" ++ r.role ++ ", " ++ status ++ ")"),
    line ("   " ++ t.paint .dimmed (" | ".intercalate r.actions))]

/-- The line of the current user in plain format. -/
def plainSession (t : Terminal) (r : SessionRow) : List Piece :=
  [line (t.paint (if r.guest then .dimmed else .green) r.summary)]

/-- Rows in the format of the terminal. -/
def rows {α : Type} (t : Terminal) (headers : List String) (cells : α → List String)
    (toJson : α → Json) (plain : α → List Piece) (items : List α) : List Piece :=
  match t.format with
  | .json => [json (.array (items.map toJson))]
  | .table =>
    if items.isEmpty then [line "No results"] else [line (Grid.text ⟨headers, items.map cells⟩)]
  | .plain => if items.isEmpty then [line "No results"] else items.flatMap plain

/-- User records in the format of the terminal. -/
def users (t : Terminal) (us : List UserRecord) : List Piece :=
  t.rows UserRow.headers UserRow.cells UserRow.toJson t.plainUser (us.map .ofRecord)

/-- The current user in the format of the terminal. -/
def user (t : Terminal) (u : CurrentUser) : List Piece :=
  t.rows SessionRow.headers SessionRow.cells SessionRow.toJson t.plainSession [.ofUser u]

/-- How to change the password. -/
def passwordHint (t : Terminal) : Piece :=
  t.hint .dimmed "Run \x60lanadmin passwd --old <OLD> --new <NEW> --repeat <NEW>\x60"

/-- What is printed for an event.  The current user is echoed only if that is asked for. -/
def render (t : Terminal) (echo : Bool) : Event → List Piece
  | .applyUser u => if echo then t.user u else []
  | .drawUserList us => t.users us
  | .openModal .changePassword => [t.passwordHint]
  | .openModal _ => []
  | .closeModal _ => []
  | .notify s => if t.format = .json then [t.hint .blue s] else [line (t.paint .blue s)]
  | .reportError e => [t.failed e.message]
  | .passwordChangeRequired => [t.hint .boldYellow "Password change is required", t.passwordHint]

end Terminal

end AccountAdmin
