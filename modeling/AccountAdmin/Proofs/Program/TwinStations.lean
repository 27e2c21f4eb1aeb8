import AccountAdmin.Program
import AccountAdmin.Proofs.Console.TwinConsoles

/-!
# Stations that differ in a token

What the terminal shows comes from outcomes, from the settings in the file and from the questions
whether there is a token in memory and one in the slot.  All of these are the same for two stations
that differ in a token only, and so is everything that a command prints there (`Stations.run`), and
everything that a shell prints while it reads its lines (`Stations.shell`).
-/

namespace AccountAdmin.TokenPair

variable (tokens : TokenPair)

/-- Stations of a file at one place whose consoles may differ in the first token. -/
structure Stations (path : String) (s₁ s₂ : Station) : Prop where
  consoles : tokens.Consoles s₁.console s₂.console
  terminal : s₁.terminal = s₂.terminal
  one_path : s₁.path = path
  other_path : s₂.path = path

/-- Turns of which an operator sees the same. -/
structure Turns (path : String) (t₁ t₂ : Turn) : Prop where
  ending : t₁.ending = t₂.ending
  pieces : t₁.pieces = t₂.pieces
  stations : tokens.Stations path t₁.station t₂.station

variable {tokens : TokenPair} {path : String}

theorem Turns.andThen {t₁ t₂ : Turn} (h : tokens.Turns path t₁ t₂) {next : Station → Turn}
    (hnext : ∀ s₁ s₂, tokens.Stations path s₁ s₂ → tokens.Turns path (next s₁) (next s₂)) :
    tokens.Turns path (t₁.andThen next) (t₂.andThen next) := by
  obtain ⟨ending, pieces, s₁⟩ := t₁
  obtain ⟨_, _, s₂⟩ := t₂
  obtain rfl : ending = _ := h.ending
  obtain rfl : pieces = _ := h.pieces
  cases ending with
  | done =>
    have hafter := hnext s₁ s₂ h.stations
    exact ⟨hafter.ending, congrArg (pieces ++ ·) hafter.pieces, hafter.stations⟩
  | reported => exact h
  | failed text => exact h

namespace Stations

variable {s₁ s₂ : Station} (h : tokens.Stations path s₁ s₂)
include h

/-! ## Turns -/

theorem print (pieces : List Piece) : tokens.Turns path (s₁.print pieces) (s₂.print pieces) :=
  ⟨rfl, rfl, h⟩

theorem turn {α : Type} {o₁ o₂ : Outcome ConfigSlot α} (echo : Bool) (ho : tokens.Outcomes o₁ o₂) :
    tokens.Turns path (s₁.turn echo o₁) (s₂.turn echo o₂) := by
  refine ⟨?_, ?_, ho.consoles, h.terminal, h.one_path, h.other_path⟩
  · rw [Station.turn, Station.turn, ho.result]
  · rw [Station.turn, Station.turn, ho.events, h.terminal]

theorem withUser {next : Station → Turn}
    (hnext : ∀ s₁ s₂, tokens.Stations path s₁ s₂ → tokens.Turns path (next s₁) (next s₂)) :
    tokens.Turns path (s₁.withUser next) (s₂.withUser next) :=
  (h.turn false h.consoles.refreshUser).andThen hnext

theorem withRecord {α : Type} (id : UserId)
    {next : UserRecord → Console ConfigSlot → Outcome ConfigSlot α}
    (hnext : ∀ u c₁ c₂, tokens.Consoles c₁ c₂ → tokens.Outcomes (next u c₁) (next u c₂)) :
    tokens.Turns path (s₁.withRecord id next) (s₂.withRecord id next) :=
  h.turn true ((h.consoles.perform (.get id)).andThen hnext)

/-! ## Commands about the session -/

theorem isAuthenticated_eq :
    s₁.console.client.isAuthenticated = s₂.console.client.isAuthenticated :=
  h.consoles.clients.hasToken_eq

theorem isPersisted_eq :
    s₁.console.client.session.isPersisted = s₂.console.client.session.isPersisted :=
  h.consoles.clients.isPersisted_eq

theorem endpoint_eq : s₁.console.client.endpoint = s₂.console.client.endpoint :=
  h.consoles.clients.endpoint

theorem files : tokens.Files s₁.file s₂.file := h.consoles.clients.slots.files

theorem login (credentials : Credentials) (remember : Bool) :
    tokens.Turns path (s₁.login credentials remember) (s₂.login credentials remember) := by
  refine (h.turn true (h.consoles.login credentials remember)).andThen fun s₁ s₂ h => ?_
  rw [h.terminal]
  exact h.print _

theorem status : tokens.Turns path s₁.status s₂.status := by
  rw [Station.status, Station.status, h.isAuthenticated_eq, h.isPersisted_eq, h.endpoint_eq,
    h.terminal]
  exact h.print _

theorem showConfig : tokens.Turns path s₁.showConfig s₂.showConfig := by
  cases h.files with
  | mk h₁ h₂ _ =>
    rw [Station.showConfig, Station.showConfig, h₁.load, h₂.load]
    dsimp only
    rw [h.isPersisted_eq, h.endpoint_eq, h.terminal, h.one_path, h.other_path]
    split
    · exact h.print _
    · exact h.print _

/-! ## All commands -/

/-- A command prints the same at both stations. -/
theorem run (command : Command) : tokens.Turns path (command.run s₁) (command.run s₂) := by
  cases command with
  | login credentials remember =>
    rw [Command.run, Command.run]
    exact h.login credentials remember
  | logout =>
    rw [Command.run, Command.run]
    exact h.turn true h.consoles.logout
  | status =>
    rw [Command.run, Command.run]
    exact h.status
  | whoami =>
    rw [Command.run, Command.run]
    exact h.turn true h.consoles.refreshUser
  | passwd old new again =>
    rw [Command.run, Command.run]
    exact h.withUser fun _ _ h => h.turn true (h.consoles.changePassword old new again)
  | profile displayName =>
    rw [Command.run, Command.run]
    exact h.withUser fun _ _ h => h.turn true (h.consoles.updateProfile displayName)
  | listUsers =>
    rw [Command.run, Command.run]
    exact h.turn true h.consoles.listUsers
  | getUser id =>
    rw [Command.run, Command.run]
    exact h.turn true (h.consoles.showUser id)
  | createUser user =>
    rw [Command.run, Command.run]
    exact h.turn true (h.consoles.addUser user)
  | setUserEnabled id enabled =>
    rw [Command.run, Command.run]
    exact h.withRecord id fun u _ _ h => h.setUserEnabled u enabled
  | deleteUser id =>
    rw [Command.run, Command.run]
    exact h.withRecord id fun u _ _ h => h.deleteUser u
  | resetPassword id =>
    rw [Command.run, Command.run]
    exact h.withRecord id fun u _ _ h => h.resetUserPassword u
  | config =>
    rw [Command.run, Command.run]
    exact h.showConfig
  | shell =>
    rw [Command.run, Command.run]
    exact ⟨rfl, rfl, h⟩

/-! ## The shell -/

theorem prompt_eq : Shell.prompt s₁.console.user = Shell.prompt s₂.console.user :=
  congrArg Shell.prompt h.consoles.user

theorem step (reading : Shell.Reading) :
    (Shell.step s₁ reading).1 = (Shell.step s₂ reading).1 ∧
      tokens.Stations path (Shell.step s₁ reading).2 (Shell.step s₂ reading).2 := by
  cases reading with
  | blank => exact ⟨rfl, h⟩
  | leave => exact ⟨rfl, h⟩
  | refused stop => exact ⟨rfl, h⟩
  | unclosed =>
    refine ⟨?_, h⟩
    rw [Shell.step, Shell.step, h.terminal]
  | command c =>
    by_cases hshell : c = .shell
    · subst hshell
      refine ⟨?_, h⟩
      rw [Shell.step, Shell.step, h.terminal]
    · have hturn := h.run c
      rw [Shell.step, Shell.step]
      · refine ⟨?_, hturn.stations⟩
        dsimp only
        rw [hturn.pieces, hturn.ending, h.terminal]
      · exact hshell
      · exact hshell

omit h in
/-- The lines of a shell: whatever is read, the next line finds such stations again. -/
theorem loop (env : Environment) (lines : List String) :
    ∀ {s₁ s₂ : Station}, tokens.Stations path s₁ s₂ →
      (Shell.loop env s₁ lines).1 = (Shell.loop env s₂ lines).1 ∧
        tokens.Stations path (Shell.loop env s₁ lines).2 (Shell.loop env s₂ lines).2 := by
  induction lines with
  | nil =>
    intro s₁ s₂ h
    refine ⟨?_, h⟩
    rw [Shell.loop, Shell.loop, h.prompt_eq]
  | cons line rest ih =>
    intro s₁ s₂ h
    rw [Shell.loop, Shell.loop]
    cases hread : Shell.read env line with
    | leave =>
      refine ⟨?_, h⟩
      dsimp only
      rw [h.prompt_eq]
    | _ =>
      obtain ⟨hpieces, hstations⟩ := h.step (Shell.read env line)
      obtain ⟨hmore, hlast⟩ := ih hstations
      rw [hread] at hpieces hmore hlast
      dsimp only
      refine ⟨?_, hlast⟩
      rw [h.prompt_eq, hpieces, hmore]

theorem shell (env : Environment) (input : String) :
    (Shell.run env s₁ input).1 = (Shell.run env s₂ input).1 ∧
      tokens.Stations path (Shell.run env s₁ input).2 (Shell.run env s₂ input).2 := by
  have hturn := h.turn true h.consoles.refreshUser
  obtain ⟨hpieces, hlast⟩ := loop env (Shell.lines input) hturn.stations
  rw [Shell.run, Shell.run]
  refine ⟨?_, hlast⟩
  dsimp only
  rw [hturn.pieces, hpieces]

end Stations

end AccountAdmin.TokenPair
