import AccountAdmin.Program
import AccountAdmin.Proofs.Console.Course

/-!
# The course of a run

A run of the program is a sequence of commands, each of which takes a turn at the station.  Here the
course of a client is followed from the actions of the console up to the whole run: a turn
(`Turn.Serves`), a command (`Command.course`), the lines of a shell (`Shell.course`) and the run
(`Program.course`).

Each of these courses is read off the wire before and after the command, and says nothing of the
way in which the command goes about its work.  That they are right is `Program.course_runAt`: the
client with which a run ends comes from the one that was set up by the course of the run.
-/

namespace AccountAdmin

/-! ## Clients that are set up -/

theorem ConfigFile.client_eq_ok {f : ConfigFile} {url : Option String} {peer : Peer}
    {client : Client ConfigSlot} (h : f.client url peer = .ok client) :
    ∃ config, f.load = .ok config ∧ client.endpoint.baseUrl = url.getD config.server.baseUrl ∧
      client.session = .start ⟨f, url.getD config.server.baseUrl⟩ ∧ client.wire = { peer } ∧
      ∃ root, client.endpoint.resolve "/" = .ok root := by
  rw [ConfigFile.client] at h
  cases hload : f.load with
  | error e => simp [hload] at h
  | ok config =>
    rw [hload] at h
    dsimp only at h
    split at h
    · cases h
    · next client' hbuild =>
      obtain rfl := Except.ok.inj h
      obtain ⟨hroot, hclient⟩ := Client.build_eq_ok_iff.1 hbuild
      rw [hclient]
      exact ⟨config, rfl, rfl, rfl, rfl, hroot⟩

variable {allowed : Method → String → Prop}

/-! ## Turns -/

/-- A turn comes about while the client is used for some purpose. -/
def Turn.Serves (allowed : Method → String → Prop) (s : Station) (p : Purpose) (t : Turn) : Prop :=
  ∃ xs, Client.Course allowed s.console.client (p.course xs) t.station.console.client

theorem Outcome.Serves.turn {α : Type} {s : Station} {p : Purpose} {o : Outcome ConfigSlot α}
    (ho : o.Serves allowed s.console.client p) (echo : Bool) :
    (s.turn echo o).Serves allowed s p := by
  obtain ⟨xs, hxs⟩ := ho
  exact ⟨xs, hxs.course⟩

/-- Neither of two turns signs in or out, and so neither do both together. -/
theorem Turn.Serves.andThen {s : Station} {t : Turn} {next : Station → Turn}
    (ht : t.Serves allowed s .other) (hnext : ∀ s, (next s).Serves allowed s .other) :
    (t.andThen next).Serves allowed s .other := by
  obtain ⟨xs, hxs⟩ := ht
  rw [Turn.andThen]
  split
  · obtain ⟨ys, hys⟩ := hnext t.station
    refine ⟨xs ++ ys, ?_⟩
    rw [Purpose.course, List.map_append]
    exact hxs.trans hys
  · exact ⟨xs, hxs⟩

/-- A turn that only prints leaves the station alone. -/
theorem Turn.Serves.andThen_print {s : Station} {p : Purpose} {t : Turn}
    (ht : t.Serves allowed s p) (pieces : Station → List Piece) :
    (t.andThen fun s => s.print (pieces s)).Serves allowed s p := by
  rw [Turn.andThen]
  split
  · exact ht
  · exact ht

theorem Station.serves_self (s : Station) (ending : Ending) (pieces : List Piece) :
    (Turn.mk ending pieces s).Serves allowed s .other := ⟨[], .nil _⟩

theorem Station.serves_showConfig (s : Station) : s.showConfig.Serves allowed s .other := by
  rw [showConfig]
  cases s.file.load with
  | error e => exact s.serves_self _ _
  | ok config =>
    dsimp only
    split
    · exact s.serves_self _ _
    · exact s.serves_self _ _

/-! ## The place of the configuration file -/

theorem Station.path_turn {α : Type} (s : Station) (echo : Bool) (o : Outcome ConfigSlot α) :
    (s.turn echo o).station.path = s.path := rfl

theorem Turn.path_andThen {t : Turn} {path : String} {next : Station → Turn}
    (ht : t.station.path = path) (hnext : ∀ s, (next s).station.path = s.path) :
    (t.andThen next).station.path = path := by
  rw [Turn.andThen]
  split
  · exact (hnext t.station).trans ht
  · exact ht

/-! ## Commands -/

namespace Command

/-- What a command is for, as far as the session is concerned. -/
def purpose : Command → Purpose
  | login _ remember => .signIn remember
  | logout => .signOut
  | _ => .other

/-- A command does nothing to the session but what it is for. -/
theorem serves (hall : ∀ call : Call, allowed call.method call.path) (command : Command)
    (s : Station) : (command.run s).Serves allowed s command.purpose := by
  -- an action on a record is preceded by the call that fetches the record
  have hrecord {id : UserId} {next : UserRecord → Console ConfigSlot → Outcome ConfigSlot Unit}
      (hnext : ∀ u c, (next u c).Serves allowed c.client .other) :
      (s.withRecord id next).Serves allowed s .other :=
    ((s.console.serves_perform (hall (.get id))).andThen hnext).turn true
  have huser {next : Station → Turn} (hnext : ∀ s, (next s).Serves allowed s .other) :
      (s.withUser next).Serves allowed s .other :=
    ((s.console.serves_refreshUser hall).turn false).andThen hnext
  cases command with
  | login credentials remember =>
    have hlogin := s.console.serves_login credentials remember (hall (.authenticate credentials))
    rw [run, Station.login]
    exact (hlogin.turn true).andThen_print _
  | logout =>
    rw [run]
    exact s.console.serves_logout.turn true
  | status =>
    rw [run, Station.status]
    exact s.serves_self _ _
  | whoami =>
    rw [run]
    exact (s.console.serves_refreshUser hall).turn true
  | passwd old new again =>
    rw [run]
    exact huser fun s => (s.console.serves_changePassword hall old new again).turn true
  | profile displayName =>
    rw [run]
    exact huser fun s => (s.console.serves_updateProfile hall displayName).turn true
  | listUsers =>
    rw [run]
    exact (s.console.serves_listUsers hall).turn true
  | getUser id =>
    rw [run]
    exact (s.console.serves_showUser hall id).turn true
  | createUser user =>
    rw [run]
    exact (s.console.serves_addUser hall user).turn true
  | setUserEnabled id enabled =>
    rw [run]
    exact hrecord fun u c => c.serves_setUserEnabled hall u enabled
  | deleteUser id =>
    rw [run]
    exact hrecord fun u c => c.serves_deleteUser hall u
  | resetPassword id =>
    rw [run]
    exact hrecord fun u c => c.serves_resetUserPassword hall u
  | config =>
    rw [run]
    exact s.serves_showConfig
  | shell =>
    rw [run]
    exact s.serves_self _ _

/-- A command leaves the configuration file at its place. -/
theorem path_run (command : Command) (s : Station) :
    (command.run s).station.path = s.path := by
  have huser {next : Station → Turn} (hnext : ∀ s, (next s).station.path = s.path) :
      (s.withUser next).station.path = s.path := by
    rw [Station.withUser]
    exact Turn.path_andThen (s.path_turn false s.console.refreshUser) hnext
  cases command with
  | login credentials remember =>
    rw [run, Station.login]
    exact Turn.path_andThen (s.path_turn true (s.console.login credentials remember)) fun s => rfl
  | passwd old new again =>
    rw [run]
    exact huser fun s => s.path_turn true _
  | profile displayName =>
    rw [run]
    exact huser fun s => s.path_turn true _
  | config =>
    rw [run, Station.showConfig]
    cases s.file.load with
    | error e => rfl
    | ok config =>
      dsimp only
      split <;> rfl
  | status | shell => rfl
  | _ =>
    rw [run]
    exact s.path_turn true _

/-- The course of a command. -/
def course (command : Command) (s : Station) : List Happening :=
  command.purpose.course
    (s.console.client.wire.exchangesTo (command.run s).station.console.client.wire)

theorem course_eq {command : Command} {s : Station} {xs : List Exchange}
    (h : Client.Course allowed s.console.client (command.purpose.course xs)
      (command.run s).station.console.client) :
    command.course s = command.purpose.course xs := by
  rw [course, h.exchangesTo_eq, Purpose.exchangesOf_course]

theorem course_run (hall : ∀ call : Call, allowed call.method call.path) (command : Command)
    (s : Station) : Client.Course allowed s.console.client (command.course s)
      (command.run s).station.console.client := by
  obtain ⟨xs, hxs⟩ := command.serves hall s
  rw [course_eq hxs]
  exact hxs

end Command

/-! ## The shell -/

namespace Shell

/-- The course of the lines of a shell. -/
def course (env : Environment) (s : Station) : List String → List Happening
  | [] => []
  | line :: rest =>
    match read env line with
    | .leave => []
    | .command c => c.course s ++ course env (step s (.command c)).2 rest
    | .blank | .refused _ | .unclosed => course env s rest

theorem station_step_command (s : Station) (c : Command) :
    (step s (.command c)).2 = (c.run s).station := by
  by_cases hshell : c = .shell
  · subst hshell
    rfl
  · rw [step]
    exact hshell

theorem path_loop (env : Environment) (lines : List String) (s : Station) :
    (loop env s lines).2.path = s.path := by
  induction lines generalizing s with
  | nil => rfl
  | cons line rest ih =>
    rw [loop]
    cases read env line with
    | leave => rfl
    | blank | refused | unclosed => exact ih s
    | command c =>
      dsimp only
      rw [ih, station_step_command, c.path_run]

theorem course_loop (hall : ∀ call : Call, allowed call.method call.path) (env : Environment)
    (lines : List String) (s : Station) :
    Client.Course allowed s.console.client (course env s lines)
      (loop env s lines).2.console.client := by
  induction lines generalizing s with
  | nil => exact .nil _
  | cons line rest ih =>
    rw [course, loop]
    cases read env line with
    | leave => exact .nil _
    | blank => exact ih s
    | refused stop => exact ih s
    | unclosed => exact ih s
    | command c =>
      dsimp only
      rw [station_step_command]
      exact (c.course_run hall s).trans (ih _)

end Shell

/-! ## The program -/

namespace Program

/-- The course of a command at a station, or of a shell. -/
def courseAt (world : Surroundings) (s : Station) (command : Command) : List Happening :=
  match command with
  | .shell =>
    Command.whoami.course s ++
      Shell.course world.env (Command.whoami.run s).station (Shell.lines world.input)
  | command => command.course s

/-- The station at which a run of the program works and the command it runs there, if it gets as far
as that. -/
def start? (world : Surroundings) (words : List String) : Option (Station × Command) :=
  match Line.readProgram world.env words with
  | .error _ => none
  | .ok invocation =>
    match invocation.command with
    | none => none
    | some command => (stationOf world invocation).toOption.map (·, command)

theorem start?_eq_some {world : Surroundings} {words : List String} {s : Station}
    {command : Command} (h : start? world words = some (s, command)) :
    ∃ invocation, Line.readProgram world.env words = .ok invocation ∧
      invocation.command = some command ∧ stationOf world invocation = .ok s := by
  rw [start?] at h
  cases hread : Line.readProgram world.env words with
  | error stop => simp [hread] at h
  | ok invocation =>
    cases hcommand : invocation.command with
    | none => simp [hread, hcommand] at h
    | some command' =>
      cases hstation : stationOf world invocation with
      | error fault => simp [hread, hcommand, hstation, Except.toOption] at h
      | ok s' =>
        simp only [hread, hcommand, hstation, Except.toOption, Option.map_some, Option.some.injEq,
          Prod.mk.injEq] at h
        obtain ⟨rfl, rfl⟩ := h
        exact ⟨invocation, rfl, hcommand, hstation⟩

theorem start?_of_stationOf {world : Surroundings} {words : List String} {invocation : Invocation}
    {command : Command} {s : Station} (hread : Line.readProgram world.env words = .ok invocation)
    (hcommand : invocation.command = some command) (hstation : stationOf world invocation = .ok s) :
    start? world words = some (s, command) := by
  rw [start?, hread]
  dsimp only
  rw [hcommand, hstation]
  rfl

theorem stationOf_eq_ok {world : Surroundings} {invocation : Invocation} {s : Station}
    (h : stationOf world invocation = .ok s) :
    ∃ client,
      (world.files (pathOf world invocation)).client invocation.url world.peer = .ok client ∧
      s = ⟨{ client }, terminalOf world invocation, pathOf world invocation⟩ := by
  rw [stationOf] at h
  cases hclient : (world.files (pathOf world invocation)).client invocation.url world.peer with
  | error fault => simp [hclient, Except.map] at h
  | ok client =>
    simp only [hclient, Except.map, Except.ok.injEq] at h
    exact ⟨client, rfl, h.symm⟩

/-- A run that gets as far as a station is the run of its command there. -/
theorem run_of_start? {world : Surroundings} {words : List String} {s : Station}
    {command : Command} (h : start? world words = some (s, command)) :
    run world words = runAt world s command := by
  obtain ⟨invocation, hread, hcommand, hstation⟩ := start?_eq_some h
  rw [run, hread]
  dsimp only
  rw [hcommand]
  dsimp only
  rw [runCommand, hstation]

theorem runAt_of_ne_shell (world : Surroundings) (s : Station) {command : Command}
    (hshell : command ≠ .shell) :
    runAt world s command = reportOf (if (command.run s).ending = .done then 0 else 1)
      ((command.run s).pieces ++ Shell.endingPieces s.terminal (command.run s).ending)
      (command.run s).station := by
  rw [runAt]
  exact hshell

/-- A shell asks for the current user and then reads lines. -/
theorem runAt_shell (world : Surroundings) (s : Station) :
    runAt world s .shell = reportOf 0
      ((Command.whoami.run s).pieces ++
        (Shell.loop world.env (Command.whoami.run s).station (Shell.lines world.input)).1)
      (Shell.loop world.env (Command.whoami.run s).station (Shell.lines world.input)).2 := by
  rw [runAt, Shell.run, Command.run]

/-- The course of a run. -/
def course (world : Surroundings) (words : List String) : List Happening :=
  match start? world words with
  | none => []
  | some (s, command) => courseAt world s command

/-- A run at a station ends at a station with the same place for the configuration file, and its
client gets there by the course of the run. -/
theorem reportOf_runAt (hall : ∀ call : Call, allowed call.method call.path)
    (world : Surroundings) (s : Station) (command : Command) :
    ∃ exit pieces last, runAt world s command = reportOf exit pieces last ∧ last.path = s.path ∧
      Client.Course allowed s.console.client (courseAt world s command) last.console.client := by
  by_cases hshell : command = .shell
  · subst hshell
    have hfirst := Command.whoami.course_run hall s
    have hrest := Shell.course_loop hall world.env (Shell.lines world.input)
      (Command.whoami.run s).station
    have hpath := Shell.path_loop world.env (Shell.lines world.input) (Command.whoami.run s).station
    exact ⟨_, _, _, runAt_shell world s, hpath.trans (Command.whoami.path_run s),
      hfirst.trans hrest⟩
  · have hcourse : courseAt world s command = command.course s := by
      rw [courseAt]
      exact hshell
    refine ⟨_, _, _, runAt_of_ne_shell world s hshell, command.path_run s, ?_⟩
    rw [hcourse]
    exact command.course_run hall s

/-- The requests of a run at a station are those of a client that follows the course of the run. -/
theorem course_runAt (hall : ∀ call : Call, allowed call.method call.path) (world : Surroundings)
    (s : Station) (command : Command) :
    ∃ last, Client.Course allowed s.console.client (courseAt world s command) last ∧
      (runAt world s command).sent = last.wire.sent := by
  obtain ⟨exit, pieces, last, hrun, -, hcourse⟩ := reportOf_runAt hall world s command
  refine ⟨last.console.client, hcourse, ?_⟩
  rw [hrun]
  rfl

/-- A run that does not get as far as a station sends nothing, and any other run sends what a run at
its station sends. -/
theorem sent_run (world : Surroundings) (words : List String) :
    (run world words).sent =
      match start? world words with
      | none => []
      | some (s, command) => (runAt world s command).sent := by
  rw [run, start?]
  cases Line.readProgram world.env words with
  | error stop => rfl
  | ok invocation =>
    dsimp only
    cases invocation.command with
    | none => rfl
    | some command =>
      dsimp only
      rw [runCommand]
      cases stationOf world invocation <;> rfl

end Program

end AccountAdmin
