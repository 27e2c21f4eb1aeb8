import AccountAdmin.Proofs.Account.UserIdText
import AccountAdmin.Proofs.Console.Script
import AccountAdmin.Proofs.Program.Course

/-!
# The requests of a command

A one-shot run of the program is one command, and what it asks of the service has been laid down
before anybody replies: a few steps, in an order, each of which is taken only if all before it went
well.  The service may reply what it likes, or not at all.  It can cut the steps short, and by the
record that it gives it can say whom the second step is about, but it cannot have a step taken
twice, out of order, or behind one that failed.

The script of a command (`Command.script`) is put together from the scripts of its actions in the
way in which the command is put together from them, and `Command.plays` says that the command goes
by it.  Since a script branches only to carry an answer along or to give up, it can be read as a
list of calls, once the record that comes first is known: these are `Command.calls`, and
`Command.steps` are their methods and paths.

`command_requests` puts this together for a whole run.
-/

namespace AccountAdmin

/-! ## Turns -/

/-- A turn comes about by the calls of a script, and all is well if it gets to the end. -/
def Turn.Plays (s : Station) (p : Script CurrentUser) (t : Turn) : Prop :=
  s.console.Plays p (decide (t.ending = .done)) t.station.console

namespace Turn

variable {s : Station} {p : Script CurrentUser} {t : Turn}

theorem Plays.andThen {f : CurrentUser → Script CurrentUser} {next : Station → Turn}
    (h : t.Plays s p) (hnext : ∀ s, (next s).Plays s (f s.console.user)) :
    (t.andThen next).Plays s (p.bind f) := by
  obtain ⟨ending, pieces, station⟩ := t
  cases ending with
  | done => exact Console.Plays.bind h (hnext station)
  | reported => exact Console.Plays.bind_of_false h f
  | failed text => exact Console.Plays.bind_of_false h f

/-- A turn that only prints leaves the script alone. -/
theorem Plays.andThen_print (h : t.Plays s p) (pieces : Station → List Piece) :
    (t.andThen fun s => s.print (pieces s)).Plays s p := by
  obtain ⟨ending, printed, station⟩ := t
  cases ending with
  | done => exact h
  | reported => exact h
  | failed text => exact h

end Turn

theorem Outcome.Plays.turn {α : Type} {s : Station} {p : Script CurrentUser}
    {o : Outcome ConfigSlot α} (h : o.Plays s.console p) (echo : Bool) :
    (s.turn echo o).Plays s p := by
  have hending : decide ((s.turn echo o).ending = .done) = o.result.isOk := by
    rw [Station.turn]
    cases o.result <;> rfl
  rw [Turn.Plays, hending]
  exact h

/-! ## Commands -/

/-- The script of a command, from the current user before it.  A shell has none, nor is it a command
of a station. -/
def Command.script (user : CurrentUser) : Command → Script CurrentUser
  | login credentials remember => (Action.login credentials remember).script user
  | logout => Action.logout.script user
  | status | config => .done user
  | whoami => Action.refreshUser.script user
  | passwd old new again =>
    (Action.refreshUser.script user).bind fun user =>
      (Action.changePassword old new again).script user
  | profile displayName =>
    (Action.refreshUser.script user).bind fun user => (Action.updateProfile displayName).script user
  | listUsers => Action.listUsers.script user
  | getUser id => (Action.showUser id).script user
  | createUser new => (Action.addUser new).script user
  | setUserEnabled id enabled =>
    .call (.get id) fun (u : UserRecord) => (Action.setUserEnabled u enabled).script user
  | deleteUser id => .call (.get id) fun (u : UserRecord) => (Action.deleteUser u).script user
  | resetPassword id =>
    .call (.get id) fun (u : UserRecord) => (Action.resetUserPassword u).script user
  | shell => .refuse

namespace Station

variable {s : Station}

theorem plays_withUser {next : Station → Turn} {f : CurrentUser → Script CurrentUser}
    (hnext : ∀ s, (next s).Plays s (f s.console.user)) :
    (s.withUser next).Plays s ((Action.refreshUser.script s.console.user).bind f) :=
  (s.console.plays_refreshUser.turn false).andThen hnext

theorem plays_withRecord {α : Type} {id : UserId} (action : UserRecord → Action)
    {next : UserRecord → Console ConfigSlot → Outcome ConfigSlot α}
    (hnext : ∀ u c, (next u c).Plays c ((action u).script c.user)) :
    (s.withRecord id next).Plays s (.call (.get id) fun u => (action u).script s.console.user) := by
  refine (s.console.plays_perform_andThen (.get id) fun u last hlast => ?_).turn true
  rw [← hlast]
  exact hnext u last

theorem plays_showConfig {config : Config} (hload : s.file.load = .ok config) :
    s.showConfig.Plays s (.done s.console.user) := by
  have hdone : s.showConfig.ending = .done ∧ s.showConfig.station = s := by
    rw [showConfig, hload]
    dsimp only
    split
    · exact ⟨rfl, rfl⟩
    · exact ⟨rfl, rfl⟩
  rw [Turn.Plays, hdone.1, hdone.2]
  exact Console.plays_done (.nil _) rfl rfl

end Station

/-- What a command asks of the service is what its script says. -/
theorem Command.plays (command : Command) {s : Station} {config : Config}
    (hload : s.file.load = .ok config) :
    (command.run s).Plays s (command.script s.console.user) := by
  cases command with
  | login credentials remember =>
    have hlogin := (s.console.plays_login credentials remember).turn true
    rw [run, Station.login]
    exact hlogin.andThen_print _
  | logout => exact s.console.plays_logout.turn true
  | status => exact Console.plays_done (.nil _) rfl rfl
  | whoami => exact s.console.plays_refreshUser.turn true
  | passwd old new again =>
    exact Station.plays_withUser fun s => (s.console.plays_changePassword old new again).turn true
  | profile displayName =>
    exact Station.plays_withUser fun s => (s.console.plays_updateProfile displayName).turn true
  | listUsers => exact (s.console.plays_listUsers rfl).turn true
  | getUser id => exact (s.console.plays_showUser id).turn true
  | createUser user => exact (s.console.plays_addUser user).turn true
  | setUserEnabled id enabled =>
    exact Station.plays_withRecord (.setUserEnabled · enabled) fun u c =>
      c.plays_setUserEnabled u enabled
  | deleteUser id => exact Station.plays_withRecord .deleteUser fun u c => c.plays_deleteUser u
  | resetPassword id =>
    exact Station.plays_withRecord .resetUserPassword fun u c => c.plays_resetUserPassword u
  | config => exact Station.plays_showConfig hload
  | shell => exact s.console.plays_refuse

/-! ## Commands as lists of calls -/

/-- The method and the path of a call. -/
def Call.signature (call : Call) : Method × String := (call.method, call.path)

namespace Command

/-- The calls of a command if all goes well.  The operator is signed in with the id `own`, and a
record that is fetched first has the id `m`. -/
def calls (own : Option UserId) (m : UserId) : Command → List Call
  | login credentials _ => [.authenticate credentials]
  | logout | status | config | shell => []
  | whoami => [.current]
  | passwd old new _ => [.current, .changePassword ⟨own, old, new⟩]
  | profile displayName => [.current, .updateDetails ⟨own, displayName⟩]
  | listUsers => [.list]
  | getUser n => [.get n]
  | createUser user => [.create user, .list]
  | setUserEnabled n enabled => [.get n, .setStatus ⟨m, !enabled⟩, .list]
  | deleteUser n => [.get n, .delete m, .list]
  | resetPassword n => [.get n, .resetPassword m]

/-- Their methods and paths. -/
def steps (m : UserId) : Command → List (Method × String)
  | login _ _ => [(.post, "/authenticate")]
  | logout | status | config | shell => []
  | whoami => [(.get, "/user")]
  | passwd _ _ _ => [(.get, "/user"), (.post, "/user/change-password")]
  | profile _ => [(.get, "/user"), (.patch, "/user/details")]
  | listUsers => [(.get, "/user/list")]
  | getUser n => [(.get, "/user/" ++ n.text)]
  | createUser _ => [(.post, "/user/create"), (.get, "/user/list")]
  | setUserEnabled n _ =>
    [(.get, "/user/" ++ n.text), (.patch, "/user/status"), (.get, "/user/list")]
  | deleteUser n =>
    [(.get, "/user/" ++ n.text), (.delete, "/user/" ++ m.text), (.get, "/user/list")]
  | resetPassword n =>
    [(.get, "/user/" ++ n.text), (.post, "/user/" ++ m.text ++ "/reset-password")]

/-- What has to be the case, besides the answer to the first call, for a second call to be made. -/
def GoesOn (m : UserId) (first : Exchange) : Command → Prop
  | passwd _ new again => new = again
  | setUserEnabled n _ | deleteUser n | resetPassword n =>
    ∃ u : UserRecord, first.answer (.get n) = .ok u ∧ u.id = some m
  | _ => True

theorem signature_calls (command : Command) (own : Option UserId) (m : UserId) :
    (command.calls own m).map Call.signature = command.steps m := by
  cases command <;> rfl

end Command

/-- No request of a command is like another one. -/
theorem Command.nodup_steps (command : Command) (m : UserId) : (command.steps m).Nodup := by
  have hlist (n : UserId) : "/user/" ++ n.text ≠ "/user/list" := by
    intro h
    exact n.text_ne_list (String.append_right_inj "/user/" |>.1 h)
  cases command with
  | setUserEnabled n | deleteUser n => simp [steps, hlist]
  | _ => simp [steps]

/-! ## Scripts as lists of calls -/

namespace Script

theorem spells_listing (user : CurrentUser) : (listing user).Spells [.list] :=
  .call fun _ => .done user

/-- A script that fetches a record and goes on with the id of it. -/
theorem Plays.exists_record {e : Endpoint} {n : UserId} {f : UserId → Script CurrentUser}
    {rest : List Call} {made : List CallMade} {r : Option CurrentUser} (second : UserId → Call)
    (hf : ∀ m, (f m).Spells (second m :: rest))
    (h : (Script.call (.get n) fun (u : UserRecord) => .onId u f).Plays e made r) :
    ∃ m, ∃ p : Script CurrentUser, p.Plays e made r ∧ p.Spells (.get n :: second m :: rest) ∧
      ∀ first ∈ made.head?, 1 < made.length →
        ∃ u : UserRecord, first.exchange.answer (.get n) = .ok u ∧ u.id = some m := by
  obtain ⟨(u : UserRecord), hplays, hanswer⟩ :=
    Plays.exists_answer (c := .get n) (default : UserRecord) h
  rw [onId] at hplays
  cases hid : u.id with
  | none =>
    -- any id will do, since nothing is sent behind the fetch
    rw [hid] at hplays
    exact ⟨default, _, hplays, .call fun _ => .refuse _ _, fun _ _ hmore =>
      absurd hplays.length_le_one_of_refuse (by omega)⟩
  | some m =>
    rw [hid] at hplays
    refine ⟨m, _, hplays, .call fun _ => hf m, fun first hfirst hmore => ?_⟩
    obtain ⟨x, rest, rfl, hx⟩ := hanswer hmore
    obtain rfl := Option.some.inj hfirst
    exact ⟨u, hx, hid⟩

end Script

/-- Whatever comes of the script of a command is what would come of a script that spells the calls
of the command. -/
theorem Command.exists_calls {command : Command} (hshell : command ≠ .shell) {user : CurrentUser}
    {e : Endpoint} {made : List CallMade} {r : Option CurrentUser}
    (h : (command.script user).Plays e made r) :
    ∃ own m, ∃ p : Script CurrentUser, p.Plays e made r ∧ p.Spells (command.calls own m) ∧
      ∀ first ∈ made.head?, 1 < made.length → command.GoesOn m first.exchange := by
  cases command with
  | login =>
    exact ⟨none, default, _, h, .call fun _ => .done _, fun _ _ _ => trivial⟩
  | logout | status | config => exact ⟨none, default, _, h, .done _, fun _ _ _ => trivial⟩
  | whoami => exact ⟨none, default, _, h, .call fun _ => .done _, fun _ _ _ => trivial⟩
  | passwd old new again =>
    obtain ⟨(u : UserRecord), hplays, -⟩ :=
      Script.Plays.exists_answer (c := .current) (default : UserRecord) h
    dsimp only [Script.bind, Action.script] at hplays
    -- two passwords that differ end the script, but not its list of calls
    by_cases heq : new = again
    · rw [if_pos heq] at hplays
      exact ⟨_, default, _, hplays, .call fun _ => .call fun _ => .done _, fun _ _ _ => heq⟩
    · rw [if_neg heq] at hplays
      exact ⟨none, default, _, hplays, .call fun _ => .refuse _ _, fun _ _ hmore =>
        absurd hplays.length_le_one_of_refuse (by omega)⟩
  | profile displayName =>
    obtain ⟨(u : UserRecord), hplays, -⟩ :=
      Script.Plays.exists_answer (c := .current) (default : UserRecord) h
    exact ⟨_, default, _, hplays, .call fun _ => .call fun _ => .done _, fun _ _ _ => trivial⟩
  | listUsers => exact ⟨none, default, _, h, Script.spells_listing user, fun _ _ _ => trivial⟩
  | getUser id => exact ⟨none, default, _, h, .call fun _ => .done _, fun _ _ _ => trivial⟩
  | createUser new =>
    exact ⟨none, default, _, h, .call fun _ => Script.spells_listing user, fun _ _ _ => trivial⟩
  | setUserEnabled n enabled =>
    exact ⟨none, Script.Plays.exists_record (fun m => .setStatus ⟨m, !enabled⟩)
      (fun _ => .call fun _ => Script.spells_listing user) h⟩
  | deleteUser n =>
    exact ⟨none, Script.Plays.exists_record .delete
      (fun _ => .call fun _ => Script.spells_listing user) h⟩
  | resetPassword n =>
    exact ⟨none, Script.Plays.exists_record .resetPassword (fun _ => .call fun _ => .done user) h⟩
  | shell => exact absurd rfl hshell

/-! ## Runs -/

/-- Surroundings without a configuration file, in which a service gives some replies. -/
def Surroundings.ofReplies (replies : List Delivery) : Surroundings where
  files := fun _ => .absent
  peer := .scripted replies

namespace Program

variable {world : Surroundings} {words : List String} {invocation : Invocation} {command : Command}

theorem run_eq_runCommand (hread : Line.readProgram world.env words = .ok invocation)
    (hcommand : invocation.command = some command) :
    run world words = runCommand world invocation command := by
  rw [run, hread]
  dsimp only
  rw [hcommand]

/-- A run that does not get as far as a station sends nothing. -/
theorem run_of_stationOf_error (hread : Line.readProgram world.env words = .ok invocation)
    (hcommand : invocation.command = some command) {fault : SetupFault}
    (hstation : stationOf world invocation = .error fault) :
    (run world words).sent = [] ∧ (run world words).exit = 1 := by
  rw [run_eq_runCommand hread hcommand, runCommand, hstation]
  exact ⟨rfl, rfl⟩

/-- A run that gets as far as a station has loaded its file and has sent nothing. -/
theorem load_of_stationOf {s : Station} (h : stationOf world invocation = .ok s) :
    (∃ config, s.file.load = .ok config) ∧ s.console.client.wire = { peer := world.peer } := by
  obtain ⟨client, hclient, rfl⟩ := stationOf_eq_ok h
  obtain ⟨config, hload, -, hsession, hwire, -⟩ := ConfigFile.client_eq_ok hclient
  refine ⟨⟨config, ?_⟩, hwire⟩
  rw [Station.file, hsession]
  exact hload

/-- The calls of a run that gets as far as a station, and those that its command spells. -/
theorem exists_made {s : Station} (hread : Line.readProgram world.env words = .ok invocation)
    (hcommand : invocation.command = some command) (hshell : command ≠ .shell)
    (hstation : stationOf world invocation = .ok s) :
    ∃ own m made r, ∃ p : Script CurrentUser,
      made.map (·.exchange) = world.peer.answers (run world words).sent ∧
      p.Plays s.console.client.endpoint made r ∧ p.Spells (command.calls own m) ∧
      (∀ first ∈ made.head?, 1 < made.length → command.GoesOn m first.exchange) ∧
      ((run world words).exit = 0 ↔ r.isSome) := by
  obtain ⟨⟨config, hload⟩, hwire⟩ := load_of_stationOf hstation
  -- the play is that of the script; what is sent is then read off the script that is a list
  obtain ⟨hs, made, r, hcourse, hmade, hplays, hr, -⟩ := command.plays hload
  obtain ⟨own, m, p, hp, hspells, hgoes⟩ := Command.exists_calls hshell hplays
  have hrun : run world words = runAt world s command := by
    rw [run_eq_runCommand hread hcommand, runCommand, hstation]
  have hreport := runAt_of_ne_shell world s hshell
  refine ⟨own, m, made, r, p, ?_, hp, hspells, hgoes, ?_⟩
  · have hanswers := hcourse.answers_sent_eq (by rw [hwire])
    rw [hwire] at hanswers
    rw [hrun, hreport, ← hmade]
    exact hanswers.symm
  · rw [hrun, hreport, hr, decide_eq_true_iff]
    simp [reportOf]

end Program

/-- Every one-shot run keeps to the steps of its command.  If the client cannot be set up, then
nothing is sent and the run fails.  Otherwise, let `m` be the id in the record that the command
fetches first, if it is about a record.  The requests are those of calls whose methods and paths are
the first ones of the steps of the command, no two of them alike.  A request is sent only if every
request before it was answered, and behind the first one only if the new password was given twice
alike and the record has an id.  The exit code is 0 exactly if all steps were taken and answered. -/
theorem command_requests (world : Surroundings) (words : List String) {invocation : Invocation}
    {command : Command} (hread : Line.readProgram world.env words = .ok invocation)
    (hcommand : invocation.command = some command) (hshell : command ≠ .shell) :
    let report := Program.run world words
    (∀ fault, Program.stationOf world invocation = .error fault →
      report.sent = [] ∧ report.exit = 1) ∧
    ∀ s, Program.stationOf world invocation = .ok s → ∃ (m : UserId) (made : List CallMade),
      made.map (·.exchange) = world.peer.answers report.sent ∧
      (∀ k ∈ made, k.exchange.Carries s.console.client.endpoint k.call) ∧
      made.map (·.call.signature) <+: command.steps m ∧
      (made.map (·.call.signature)).Nodup ∧
      (∀ before k after, made = before ++ k :: after → (∀ j ∈ before, j.Answered) ∧
        ∀ first ∈ before.head?, command.GoesOn m first.exchange) ∧
      (report.exit = 0 ↔
        made.length = (command.steps m).length ∧ ∀ k ∈ made, k.Answered) := by
  intro report
  refine ⟨fun fault => Program.run_of_stationOf_error hread hcommand, fun s hstation => ?_⟩
  obtain ⟨own, m, made, r, p, hmade, hplays, hspells, hgoes, hexit⟩ :=
    Program.exists_made hread hcommand hshell hstation
  have hbegins : made.map (·.call.signature) <+: command.steps m := by
    have hmap := (hplays.prefix_of_spells hspells).map Call.signature
    rw [command.signature_calls, List.map_map] at hmap
    exact hmap
  have hnodup := (command.nodup_steps m).sublist hbegins.sublist
  refine ⟨m, made, hmade, hplays.carries, hbegins, hnodup, fun before k after hsplit =>
    ⟨hplays.answered_before hsplit, fun first hfirst => ?_⟩, ?_⟩
  · cases before with
    | nil => cases hfirst
    | cons j before =>
      obtain rfl := Option.some.inj hfirst
      subst hsplit
      refine hgoes j rfl ?_
      rw [List.length_append, List.length_cons, List.length_cons]
      omega
  · rw [hexit, hplays.isSome_iff_of_spells hspells, ← command.signature_calls own m,
      List.length_map]

/-- Somebody deletes user 7 and is told that all went well. -/
theorem command_requests_delete :
    let world : Surroundings := .ofReplies [.answered ⟨200, some "\x7b\"userId\":7\x7d".toUTF8⟩,
      .answered ⟨204, none⟩, .answered ⟨200, some "[]".toUTF8⟩]
    let words := ["user", "delete", "7"]
    ∃ (m : UserId) (made : List CallMade),
      made.map (·.exchange) = world.peer.answers (Program.run world words).sent ∧
      made.map (·.call.signature) =
        [(.get, "/user/7"), (.delete, "/user/" ++ m.text), (.get, "/user/list")] ∧
      ∀ k ∈ made, k.Answered := by
  intro world words
  let command : Command := .deleteUser { value := 7 }
  let invocation : Invocation := ⟨.plain, false, none, none, command⟩
  have hread : Line.readProgram world.env words = .ok invocation := rfl
  have hexit : (Program.run world words).exit = 0 := by decide +kernel
  obtain ⟨herror, hok⟩ := command_requests world words hread rfl (by decide)
  cases hstation : Program.stationOf world invocation with
  | error fault => exact absurd (hexit.symm.trans (herror fault hstation).2) (by decide)
  | ok s =>
    obtain ⟨m, made, hmade, -, hbegins, -, -, hcomplete⟩ := hok s hstation
    obtain ⟨hlength, hanswered⟩ := hcomplete.1 hexit
    have hseven : "/user/" ++ UserId.text { value := 7 } = "/user/7" := by decide +kernel
    have hsteps := hbegins.eq_of_length (by rw [List.length_map, hlength])
    rw [Command.steps, hseven] at hsteps
    exact ⟨m, made, hmade, hsteps, hanswered⟩

end AccountAdmin
