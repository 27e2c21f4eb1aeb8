import AccountAdmin.Proofs.Console.ErrorContract
import AccountAdmin.Proofs.Display.Rendering
import AccountAdmin.Proofs.Program.Tellings

/-!
# A failure is shown once

What goes wrong in a one-shot run is shown on one of two ways.  A failure of the console, or of the
call that fetches a record, is an event, which the terminal shows while the command is at work; the
turn then says that this has been done.  Any other failure is left to the program, which shows it
once the command has ended, or in place of the command if it does not get as far as that.

That the two ways do not meet rests on the events alone.  An outcome tells of its own failure,
once, and of no other (`Outcome.TellsFailure`), and unlike the contract of the console this passes
through `Outcome.andThen` without any condition, since the second part is only performed if the
first one has nothing to tell.  So it holds of an action behind a call that fetches a record as
well.  What a command prints on its own is never about a failure (`Command.filter_isError_own`).

* `Command.tells_failures`: the events of a command tell of one failure, or of none, as its turn
  says.
* `failure_shown_once`: the run as a whole.
-/

namespace AccountAdmin

/-! ## Outcomes -/

namespace Outcome

variable {σ α β : Type}

/-- The failure of an outcome. -/
def failure? (o : Outcome σ α) : Option Error :=
  match o.result with
  | .ok _ => none
  | .error e => some e

/-- The events of an outcome show its failure, if there is one, and no other. -/
def TellsFailure (o : Outcome σ α) : Prop :=
  o.events.filterMap Event.failure? = o.failure?.toList

theorem filterMap_failure?_eq_nil {events : List Event} (h : ∀ ev ∈ events, ev.isReport = false) :
    events.filterMap Event.failure? = [] := by
  refine List.filterMap_eq_nil_iff.2 fun ev hev => ?_
  have hreport := h ev hev
  cases ev with
  | reportError e => cases hreport
  | _ => rfl

/-- Who keeps the contract of the console tells of the failure. -/
theorem Honest.tellsFailure [TokenSlot σ] {c : Console σ} {o : Outcome σ α} (h : o.Honest c) :
    o.TellsFailure := by
  rw [TellsFailure, failure?]
  cases hresult : o.result with
  | ok a => exact filterMap_failure?_eq_nil (h.succeeds a hresult)
  | error e =>
    obtain ⟨before, hevents, hbefore⟩ := (h.fails e hresult).reported
    rw [hevents, List.filterMap_append,
      filterMap_failure?_eq_nil fun ev hev => (hbefore ev hev).1]
    rfl

theorem TellsFailure.andThen {o : Outcome σ α} {next : α → Console σ → Outcome σ β}
    (h : o.TellsFailure) (hnext : ∀ a c, (next a c).TellsFailure) :
    (o.andThen next).TellsFailure := by
  rw [TellsFailure, failure?] at h ⊢
  cases hresult : o.result with
  | error e =>
    rw [hresult] at h
    rw [andThen_of_error hresult]
    exact h
  | ok a =>
    rw [hresult] at h
    rw [andThen_of_ok hresult, List.filterMap_append, h]
    exact hnext a o.console

end Outcome

/-! ## Turns -/

/-- The failures that the terminal is told of. -/
def failuresTold (told : List Telling) : List Error := told.filterMap (·.event.failure?)

theorem failuresTold_append (told more : List Telling) :
    failuresTold (told ++ more) = failuresTold told ++ failuresTold more :=
  List.filterMap_append

theorem Outcome.failuresTold_told {σ α : Type} (o : Outcome σ α) (echo : Bool) :
    failuresTold (o.told echo) = o.events.filterMap Event.failure? := by
  rw [failuresTold, Outcome.told, List.filterMap_map]
  rfl

/-- Every failure that the terminal is told of becomes a line that says so, and nothing else
does. -/
theorem Terminal.failures_show (t : Terminal) (told : List Telling) :
    (told.flatMap t.show).filter Piece.isError =
      (failuresTold told).map fun e => t.failed e.message := by
  induction told with
  | nil => rfl
  | cons x told ih =>
    rw [List.flatMap_cons, List.filter_append, ih, Terminal.show, t.failures_render, failuresTold,
      failuresTold, List.filterMap_cons]
    cases x.event.failure? <;> rfl

/-- The failures that have been told of when a turn ends. -/
inductive Ending.Accounts : Ending → List Error → Prop where
  | done : Accounts .done []
  | reported (e : Error) : Accounts .reported [e]
  | failed (text : String) : Accounts (.failed text) []

namespace Station

variable {α : Type} (s : Station) {o : Outcome ConfigSlot α}

theorem accounts_turn (h : o.TellsFailure) (echo : Bool) :
    (s.turn echo o).ending.Accounts (failuresTold (o.told echo)) := by
  rw [Outcome.TellsFailure, Outcome.failure?] at h
  rw [o.failuresTold_told, turn]
  cases hresult : o.result with
  | ok a =>
    rw [h, hresult]
    exact .done
  | error e =>
    rw [h, hresult]
    exact .reported e

theorem accounts_withUser (next : Console ConfigSlot → Outcome ConfigSlot α)
    (hnext : ∀ c, (next c).TellsFailure) :
    (s.withUser fun s => s.turn true (next s.console)).ending.Accounts
      (failuresTold (s.toldWithUser next)) := by
  have hfirst := s.console.honest_refreshUser.tellsFailure
  rw [withUser, toldWithUser, failuresTold_append]
  cases hresult : s.console.refreshUser.result with
  | ok u =>
    rw [Outcome.TellsFailure, Outcome.failure?, hresult] at hfirst
    rw [s.turn_andThen_of_ok hresult, Outcome.failuresTold_told, hfirst]
    dsimp only
    exact accounts_turn _ (hnext s.console.refreshUser.console) true
  | error e =>
    rw [s.turn_andThen_of_error hresult]
    dsimp only
    rw [failuresTold, failuresTold, List.filterMap_nil, List.append_nil]
    exact s.accounts_turn hfirst false

theorem accounts_withRecord (id : UserId)
    {next : UserRecord → Console ConfigSlot → Outcome ConfigSlot α}
    (hnext : ∀ u c, (next u c).TellsFailure) :
    (s.withRecord id next).ending.Accounts (failuresTold (s.toldWithRecord id next)) :=
  s.accounts_turn ((s.console.honest_perform (.get id)).tellsFailure.andThen hnext) true

end Station

/-! ## Commands -/

namespace Station

variable (s : Station)

theorem stream_status : ∀ p ∈ s.status.pieces, p.stream = .output := by
  intro p hp
  rw [status, print] at hp
  obtain rfl := List.mem_singleton.1 hp
  split
  · rfl
  · split <;> rfl

theorem stream_secondsLine (name : String) (n : Option UInt64) :
    ∀ p ∈ secondsLine name n, p.stream = .output := by
  intro p hp
  cases n with
  | none => cases hp
  | some n =>
    rw [secondsLine, List.mem_singleton] at hp
    exact hp ▸ rfl

theorem stream_showConfig : ∀ p ∈ s.showConfig.pieces, p.stream = .output := by
  intro p hp
  rw [showConfig] at hp
  split at hp
  · cases hp
  · dsimp only at hp
    split at hp
    · exact List.mem_singleton.1 hp ▸ rfl
    · simp only [print, List.mem_append, List.mem_cons, List.not_mem_nil, or_false] at hp
      rcases hp with (((rfl | rfl) | hp) | hp) | rfl
      · rfl
      · rfl
      · exact stream_secondsLine _ _ p hp
      · exact stream_secondsLine _ _ p hp
      · rfl

end Station

namespace Command

/-- The events of a command tell of one failure if the turn says that a failure was shown, and else
of none. -/
theorem tells_failures (command : Command) (s : Station) :
    (command.run s).ending.Accounts (failuresTold (command.told s)) := by
  cases command with
  | login credentials remember =>
    have hlogin := (s.console.honest_login credentials remember).tellsFailure
    have haccounts := s.accounts_turn hlogin true
    rw [run, told, Station.login]
    cases hresult : (s.console.login credentials remember).result with
    | ok u =>
      rw [s.turn_andThen_of_ok hresult]
      rw [Station.turn, hresult] at haccounts
      dsimp only [Station.print] at haccounts ⊢
      exact haccounts
    | error e =>
      rw [s.turn_andThen_of_error hresult]
      exact haccounts
  | logout =>
    have hlogout : s.console.logout.TellsFailure := rfl
    exact s.accounts_turn hlogout true
  | status => exact .done
  | whoami =>
    rw [run, told]
    exact s.accounts_turn s.console.honest_refreshUser.tellsFailure true
  | passwd old new again =>
    rw [run, told]
    exact s.accounts_withUser (fun c => c.changePassword old new again)
      fun c => (c.honest_changePassword old new again).tellsFailure
  | profile displayName =>
    rw [run, told]
    exact s.accounts_withUser (fun c => c.updateProfile displayName)
      fun c => (c.honest_updateProfile displayName).tellsFailure
  | listUsers =>
    rw [run, told]
    exact s.accounts_turn s.console.honest_listUsers.tellsFailure true
  | getUser id =>
    rw [run, told]
    exact s.accounts_turn (s.console.honest_showUser id).tellsFailure true
  | createUser user =>
    rw [run, told]
    exact s.accounts_turn (s.console.honest_addUser user).tellsFailure true
  | setUserEnabled id enabled =>
    rw [run, told]
    exact s.accounts_withRecord id fun u c => (c.honest_setUserEnabled u enabled).tellsFailure
  | deleteUser id =>
    rw [run, told]
    exact s.accounts_withRecord id fun u c => (c.honest_deleteUser u).tellsFailure
  | resetPassword id =>
    rw [run, told]
    exact s.accounts_withRecord id fun u c => (c.honest_resetUserPassword u).tellsFailure
  | config =>
    rw [run, told, Station.showConfig]
    cases s.file.load with
    | error e => exact .failed _
    | ok config =>
      dsimp only
      split
      · exact .done
      · exact .done
  | shell => exact .failed _

/-- What a command prints on its own says nothing of a failure. -/
theorem filter_isError_own (command : Command) (s : Station) :
    (command.own s).filter Piece.isError = [] := by
  cases command with
  | login credentials remember =>
    rw [own]
    split
    · split <;> rfl
    · rfl
  | status => exact Terminal.filter_isError_of_output s.stream_status
  | config => exact Terminal.filter_isError_of_output s.stream_showConfig
  | _ => rfl

/-- The lines of a command that say that something is wrong are those of the failures that it tells
of. -/
theorem filter_isError_pieces (command : Command) (s : Station) :
    (command.run s).pieces.filter Piece.isError =
      (failuresTold (command.told s)).map fun e => s.terminal.failed e.message := by
  rw [command.pieces_run, List.filter_append, s.terminal.failures_show,
    command.filter_isError_own, List.append_nil]

end Command

/-! ## Runs -/

namespace Program

variable {world : Surroundings} {words : List String} {invocation : Invocation}

/-- What the command of a run tells the terminal. -/
def told (world : Surroundings) (words : List String) : List Telling :=
  match start? world words with
  | none => []
  | some (s, command) => command.told s

/-- What is printed while the command of a run is at work. -/
def printed (world : Surroundings) (words : List String) : List Piece :=
  match start? world words with
  | none => []
  | some (s, command) => (command.run s).pieces

/-- A run that has a command line and does not get as far as a station says why, and fails. -/
theorem run_of_start?_eq_none (hread : Line.readProgram world.env words = .ok invocation)
    (hstart : start? world words = none) :
    ∃ text, (run world words).exit = 1 ∧
      (run world words).pieces = [(terminalOf world invocation).failed text] := by
  rw [start?, hread] at hstart
  rw [run, hread]
  dsimp only at hstart ⊢
  cases hcommand : invocation.command with
  | none => exact ⟨_, rfl, rfl⟩
  | some command =>
    rw [hcommand] at hstart
    dsimp only at hstart ⊢
    rw [runCommand]
    cases hstation : stationOf world invocation with
    | error fault => exact ⟨_, rfl, rfl⟩
    | ok s =>
      rw [hstation] at hstart
      cases hstart

/-- The command at which a run gets to work. -/
theorem start?_of_readProgram (hread : Line.readProgram world.env words = .ok invocation)
    {s : Station} {command : Command} (hstart : start? world words = some (s, command)) :
    invocation.command = some command ∧ s.terminal = terminalOf world invocation := by
  obtain ⟨invocation', hread', hcommand, hstation⟩ := start?_eq_some hstart
  obtain rfl : invocation' = invocation := Except.ok.inj (hread'.symm.trans hread)
  obtain ⟨client, -, rfl⟩ := stationOf_eq_ok hstation
  exact ⟨hcommand, rfl⟩

end Program

/-- The failure of a run is shown on one way: the exit code, the failures that the terminal was told
of while the command was at work, the lines that said then that something is wrong, and what was
printed once the command had ended. -/
inductive Terminal.ShowsOnce (t : Terminal) :
    Nat → List Error → List Piece → List Piece → Prop where
  /-- There is none. -/
  | well : ShowsOnce t 0 [] [] []
  /-- The terminal was told of it and has shown it. -/
  | told (e : Error) : ShowsOnce t 1 [e] [t.failed e.message] []
  /-- The terminal was told of none, and the program shows it. -/
  | untold (text : String) : ShowsOnce t 1 [] [] [t.failed text]

theorem Terminal.ShowsOnce.length_eq {t : Terminal} {exit : Nat} {told : List Error}
    {shown closing : List Piece} (h : t.ShowsOnce exit told shown closing) :
    (shown ++ closing.filter Piece.isError).length = exit ∧ exit ≤ 1 := by
  cases h with
  | well => exact ⟨rfl, Nat.zero_le 1⟩
  | told e => exact ⟨rfl, Nat.le_refl 1⟩
  | untold text => exact ⟨rfl, Nat.le_refl 1⟩

namespace Command

/-- A command that is run once shows its failure once. -/
theorem showsOnce (command : Command) (s : Station) :
    s.terminal.ShowsOnce (if (command.run s).ending = .done then 0 else 1)
      (failuresTold (command.told s)) ((command.run s).pieces.filter Piece.isError)
      (Shell.endingPieces s.terminal (command.run s).ending) := by
  rw [command.filter_isError_pieces]
  have haccounts := command.tells_failures s
  generalize (command.run s).ending = ending at haccounts ⊢
  generalize failuresTold (command.told s) = failures at haccounts ⊢
  cases haccounts with
  | done => exact .well
  | reported e => exact .told e
  | failed text => exact .untold text

end Command

/-- **A failure is shown once.**  The exit code of a one-shot run is zero or one, and there are as
many lines that say that something is wrong.  What is printed falls into what is printed while the
command is at work and what is printed once it has ended, and the failure, if there is one, is
shown in one of the two: in the first if the terminal was told of it, and in the second if not. -/
theorem failure_shown_once (world : Surroundings) (words : List String) {invocation : Invocation}
    (hread : Line.readProgram world.env words = .ok invocation)
    (hshell : invocation.command ≠ some .shell) :
    let report := Program.run world words
    let printed := Program.printed world words
    report.exit ≤ 1 ∧ (report.pieces.filter Piece.isError).length = report.exit ∧
      ∃ closing, report.pieces = printed ++ closing ∧
        (Program.terminalOf world invocation).ShowsOnce report.exit
          (failuresTold (Program.told world words)) (printed.filter Piece.isError) closing := by
  intro report printed
  have hshows : ∃ closing, report.pieces = printed ++ closing ∧
      (Program.terminalOf world invocation).ShowsOnce report.exit
        (failuresTold (Program.told world words)) (printed.filter Piece.isError) closing := by
    dsimp only [report, printed]
    rw [Program.told, Program.printed]
    cases hstart : Program.start? world words with
    | none =>
      obtain ⟨text, hexit, hpieces⟩ := Program.run_of_start?_eq_none hread hstart
      rw [hexit, hpieces]
      exact ⟨_, rfl, .untold text⟩
    | some start =>
      obtain ⟨s, command⟩ := start
      obtain ⟨hcommand, hterminal⟩ := Program.start?_of_readProgram hread hstart
      have hne : command ≠ .shell := fun h => hshell (h ▸ hcommand)
      rw [Program.run_of_start? hstart, Program.runAt_of_ne_shell world s hne, ← hterminal]
      exact ⟨_, rfl, command.showsOnce s⟩
  obtain ⟨closing, hpieces, hshows⟩ := hshows
  obtain ⟨hlength, hexit⟩ := hshows.length_eq
  refine ⟨hexit, ?_, closing, hpieces, hshows⟩
  rw [hpieces, List.filter_append, hlength]

/-- Somebody disables user 7.  The service does so and then no longer knows the token when it is
asked for the list: the notice stands before the one line that says that something is wrong. -/
theorem failure_shown_once_behind_notice :
    let world : Surroundings :=
      { files := fun _ => .file
          "[session]\ntoken = \"t\"\nbase_url = \"http://localhost:8080/rest\"\n".toUTF8
        peer := .scripted [.answered ⟨200, some "\x7b\"userId\":7,\"username\":\"bob\"\x7d".toUTF8⟩,
          .answered ⟨204, none⟩, .answered ⟨401, none⟩] }
    let words := ["user", "disable", "7"]
    (Program.run world words).pieces =
        [.data "User @bob disabled.\n", Terminal.failed {} Error.sessionExpired.message] ∧
      Program.printed world words = (Program.run world words).pieces ∧
      ∃ e, failuresTold (Program.told world words) = [e] := by
  intro world words
  let invocation : Invocation :=
    ⟨.plain, false, none, none, some (.setUserEnabled { value := 7 } false)⟩
  have hread : Line.readProgram world.env words = .ok invocation := rfl
  have hpieces : (Program.run world words).pieces =
      [.data "User @bob disabled.\n", Terminal.failed {} Error.sessionExpired.message] := by
    decide +kernel
  have htold : (failuresTold (Program.told world words)).isEmpty = false := by decide +kernel
  obtain ⟨-, -, closing, hclosing, hshows⟩ := failure_shown_once world words hread (by decide)
  generalize (Program.run world words).exit = exit at hshows
  generalize (Program.printed world words).filter Piece.isError = shown at hshows
  generalize failuresTold (Program.told world words) = failures at hshows htold ⊢
  cases hshows with
  | well => cases htold
  | told e => exact ⟨hpieces, by rw [hclosing, List.append_nil], e, rfl⟩
  | untold text => cases htold

end AccountAdmin
