import AccountAdmin.Proofs.Program.TwinStations

/-!
# The token is opaque

Two runs of the program that are the same but for the token in the configuration file cannot be
told apart by an operator (`token_opaque`): they have the same exit code and print the same.  The
peer can tell them apart by the token alone, and only as long as it is the one that was in the file:
the first requests carry the one token here and the other there, and all later requests are the
same.  What is left in the files differs in that token or not at all.

The two stations that are set up are a pair as in `TokenPair.Stations`, and everything else follows
from the commands that are run there.
-/

namespace AccountAdmin

namespace TokenPair

variable (tokens : TokenPair)

/-! ## Files before and after -/

/-- Files that hold the same configuration but for the token of its session, which is the one token
here and the other there. -/
def Differ (f₁ f₂ : ConfigFile) : Prop :=
  ∃ server owner, f₁.load = .ok ⟨server, some ⟨tokens.one, owner⟩⟩ ∧
    f₂.load = .ok ⟨server, some ⟨tokens.other, owner⟩⟩

/-- Reports of runs that look at the file at one place, if at any, of which an operator sees the
same. -/
structure Reports (place : Option String) (r₁ r₂ : Report) : Prop where
  exit : r₁.exit = r₂.exit
  pieces : r₁.pieces = r₂.pieces
  sent : ∃ first rest : List Request, r₁.sent = first.map (Request.bearing tokens.one) ++ rest ∧
    r₂.sent = first.map (Request.bearing tokens.other) ++ rest
  file : (place = none ∧ r₁.file = none ∧ r₂.file = none) ∨
    ∃ path f₁ f₂, place = some path ∧ r₁.file = some (path, f₁) ∧ r₂.file = some (path, f₂) ∧
      tokens.Files f₁ f₂

variable {tokens : TokenPair}

theorem Differ.files {f₁ f₂ : ConfigFile} (h : tokens.Differ f₁ f₂) : tokens.Files f₁ f₂ := by
  obtain ⟨server, owner, h₁, h₂⟩ := h
  have hplace {f : ConfigFile} {record : SessionRecord}
      (hload : f.load = .ok ⟨server, some record⟩) : f ≠ .nowhere := by
    rintro rfl
    cases hload
  exact ⟨⟨hplace h₁, h₁⟩, ⟨hplace h₂, h₂⟩, .original owner⟩

theorem Files.load {f₁ f₂ : ConfigFile} (h : tokens.Files f₁ f₂) :
    (∃ config, f₁.load = .ok config ∧ f₂.load = .ok config) ∨ tokens.Differ f₁ f₂ := by
  cases h with
  | @mk server _ _ h₁ h₂ hslots =>
    cases hslots with
    | original owner => exact .inr ⟨server, owner, h₁.load, h₂.load⟩
    | same => exact .inl ⟨_, h₁.load, h₂.load⟩

/-! ## Setting up -/

/-- With two such files, no client can be set up or two that differ in the token only. -/
theorem Files.client {f₁ f₂ : ConfigFile} (h : tokens.Files f₁ f₂) (url : Option String)
    (peer : Peer) :
    (∃ fault, f₁.client url peer = .error fault ∧ f₂.client url peer = .error fault) ∨
      ∃ c₁ c₂, f₁.client url peer = .ok c₁ ∧ f₂.client url peer = .ok c₂ ∧
        tokens.Clients c₁ c₂ := by
  cases h with
  | @mk server slot₁ slot₂ h₁ h₂ hslots =>
    have hslots' : tokens.FileSlots ⟨f₁, url.getD server.baseUrl⟩ ⟨f₂, url.getD server.baseUrl⟩ :=
      ⟨rfl, h₁, h₂, hslots⟩
    rw [ConfigFile.client, ConfigFile.client, h₁.load, h₂.load]
    dsimp only
    rw [Client.build, Client.build]
    cases Endpoint.resolve _ "/" with
    | error e => exact .inl ⟨_, rfl, rfl⟩
    | ok _ => exact .inr ⟨_, _, rfl, rfl, rfl, rfl, hslots', hslots'.history⟩

/-! ## Runs -/

theorem History.sent {token₁ token₂ : Option String} {sent₁ sent₂ : List Request}
    (h : tokens.History token₁ sent₁ token₂ sent₂) :
    ∃ first rest : List Request, sent₁ = first.map (Request.bearing tokens.one) ++ rest ∧
      sent₂ = first.map (Request.bearing tokens.other) ++ rest := by
  cases h with
  | original first => exact ⟨first, [], (List.append_nil _).symm, (List.append_nil _).symm⟩
  | replaced _ first rest => exact ⟨first, rest, rfl, rfl⟩

theorem Stations.report {path : String} {s₁ s₂ : Station} (h : tokens.Stations path s₁ s₂)
    (exit : Nat) (pieces : List Piece) :
    tokens.Reports (some path) (Program.reportOf exit pieces s₁)
      (Program.reportOf exit pieces s₂) where
  exit := rfl
  pieces := rfl
  sent := h.consoles.clients.history.sent
  file := by
    refine .inr ⟨path, s₁.file, s₂.file, rfl, ?_, ?_, h.files⟩
    · rw [Program.reportOf, h.one_path]
    · rw [Program.reportOf, h.other_path]

section Runs

variable (world : Surroundings) {files₁ files₂ : String → ConfigFile}

theorem Stations.runAt {path : String} {s₁ s₂ : Station} (h : tokens.Stations path s₁ s₂)
    (command : Command) :
    tokens.Reports (some path) (Program.runAt { world with files := files₁ } s₁ command)
      (Program.runAt { world with files := files₂ } s₂ command) := by
  by_cases hshell : command = .shell
  · subst hshell
    obtain ⟨hpieces, hlast⟩ := h.shell world.env world.input
    rw [Program.runAt, Program.runAt]
    dsimp only
    rw [hpieces]
    exact hlast.report 0 _
  · have hturn := h.run command
    rw [Program.runAt, Program.runAt]
    · rw [hturn.ending, hturn.pieces, h.terminal]
      exact hturn.stations.report _ _
    · exact hshell
    · exact hshell

theorem Files.stationOf (invocation : Invocation)
    (h : tokens.Files (files₁ (Program.pathOf world invocation))
      (files₂ (Program.pathOf world invocation))) :
    (∃ fault, Program.stationOf { world with files := files₁ } invocation = .error fault ∧
      Program.stationOf { world with files := files₂ } invocation = .error fault) ∨
      ∃ s₁ s₂, Program.stationOf { world with files := files₁ } invocation = .ok s₁ ∧
        Program.stationOf { world with files := files₂ } invocation = .ok s₂ ∧
        tokens.Stations (Program.pathOf world invocation) s₁ s₂ := by
  have hstation (files : String → ConfigFile) :
      Program.stationOf { world with files } invocation =
        ((files (Program.pathOf world invocation)).client invocation.url world.peer).map
          fun client => ⟨{ client }, Program.terminalOf world invocation,
            Program.pathOf world invocation⟩ := rfl
  rw [hstation, hstation]
  rcases h.client invocation.url world.peer with ⟨fault, h₁, h₂⟩ | ⟨c₁, c₂, h₁, h₂, hclients⟩
  · rw [h₁, h₂]
    exact .inl ⟨fault, rfl, rfl⟩
  · rw [h₁, h₂]
    exact .inr ⟨_, _, rfl, rfl, ⟨rfl, hclients⟩, rfl, rfl, rfl⟩

theorem Files.runCommand (invocation : Invocation) (command : Command)
    (h : tokens.Files (files₁ (Program.pathOf world invocation))
      (files₂ (Program.pathOf world invocation))) :
    tokens.Reports (some (Program.pathOf world invocation))
      (Program.runCommand { world with files := files₁ } invocation command)
      (Program.runCommand { world with files := files₂ } invocation command) := by
  rw [Program.runCommand, Program.runCommand]
  rcases h.stationOf world invocation with ⟨fault, h₁, h₂⟩ | ⟨s₁, s₂, h₁, h₂, hstations⟩
  · rw [h₁, h₂]
    exact ⟨rfl, rfl, ⟨[], [], rfl, rfl⟩, .inr ⟨_, _, _, rfl, rfl, rfl, h⟩⟩
  · rw [h₁, h₂]
    exact hstations.runAt world command

/-- The file that matters is the one at the place that the run looks at. -/
theorem reports_run (words : List String)
    (h : ∀ path, Program.path? world.env world.defaultPath words = some path →
      tokens.Files (files₁ path) (files₂ path)) :
    tokens.Reports (Program.path? world.env world.defaultPath words)
      (Program.run { world with files := files₁ } words)
      (Program.run { world with files := files₂ } words) := by
  rw [Program.path?] at h ⊢
  rw [Program.run, Program.run]
  cases hread : Line.readProgram world.env words with
  | error stop => exact ⟨rfl, rfl, ⟨[], [], rfl, rfl⟩, .inl ⟨rfl, rfl, rfl⟩⟩
  | ok invocation =>
    rw [hread] at h
    dsimp only at h ⊢
    cases hcommand : invocation.command with
    | none => exact ⟨rfl, rfl, ⟨[], [], rfl, rfl⟩, .inl ⟨rfl, rfl, rfl⟩⟩
    | some command =>
      rw [hcommand] at h
      exact (h _ rfl).runCommand world invocation command

end Runs

end TokenPair

/-- The token is opaque to everything that an operator sees.

Two runs with the same command line, environment, input and peer, whose configuration files differ
in the value of the token only, have the same exit code and print the same.  They send the same
requests but for the first ones, which carry the one token here and the other there.  The files they
leave hold the same configuration, or still differ in these two tokens. -/
theorem token_opaque (tokens : TokenPair) (world : Surroundings)
    (files₁ files₂ : String → ConfigFile) (words : List String)
    (hfiles : ∀ path, Program.path? world.env world.defaultPath words = some path →
      tokens.Differ (files₁ path) (files₂ path)) :
    let one := Program.run { world with files := files₁ } words
    let other := Program.run { world with files := files₂ } words
    one.exit = other.exit ∧ one.pieces = other.pieces ∧
      (∃ first rest : List Request,
        one.sent = first.map (Request.bearing tokens.one) ++ rest ∧
        other.sent = first.map (Request.bearing tokens.other) ++ rest) ∧
      ((Program.path? world.env world.defaultPath words = none ∧ one.file = none ∧
          other.file = none) ∨
        ∃ path f₁ f₂, Program.path? world.env world.defaultPath words = some path ∧
          one.file = some (path, f₁) ∧ other.file = some (path, f₂) ∧
          ((∃ config, f₁.load = .ok config ∧ f₂.load = .ok config) ∨ tokens.Differ f₁ f₂)) := by
  intro one other
  have hreports : tokens.Reports (Program.path? world.env world.defaultPath words) one other :=
    TokenPair.reports_run world words fun path hpath => (hfiles path hpath).files
  refine ⟨hreports.exit, hreports.pieces, hreports.sent, ?_⟩
  rcases hreports.file with hnone | ⟨path, f₁, f₂, hpath, h₁, h₂, hleft⟩
  · exact .inl hnone
  · exact .inr ⟨path, f₁, f₂, hpath, h₁, h₂, hleft.load⟩

/-- Asking who is signed in, with one of two tokens in the file that belong to the default
service. -/
theorem token_opaque_whoami :
    let tokens : TokenPair := ⟨"one", "other", by decide, by decide⟩
    let file₁ : ConfigFile := .saved ⟨{}, some ⟨"one", some Endpoint.defaultBaseUrl⟩⟩
    let file₂ : ConfigFile := .saved ⟨{}, some ⟨"other", some Endpoint.defaultBaseUrl⟩⟩
    let world : Surroundings := { files := fun _ => .absent, peer := .scripted [] }
    Program.path? {} "lanadmin.toml" ["whoami"] = some "lanadmin.toml" ∧
      tokens.Differ file₁ file₂ ∧
      (Program.run { world with files := fun _ => file₁ } ["whoami"]).exit =
        (Program.run { world with files := fun _ => file₂ } ["whoami"]).exit ∧
      (Program.run { world with files := fun _ => file₁ } ["whoami"]).pieces =
        (Program.run { world with files := fun _ => file₂ } ["whoami"]).pieces := by
  intro tokens file₁ file₂ world
  have hload₁ : file₁.load = .ok _ :=
    ConfigFile.load_saved (Config.writable_default.withSession _)
  have hload₂ : file₂.load = .ok _ :=
    ConfigFile.load_saved (Config.writable_default.withSession _)
  have hdiffer : tokens.Differ file₁ file₂ := ⟨{}, some Endpoint.defaultBaseUrl, hload₁, hload₂⟩
  obtain ⟨hexit, hpieces, -, -⟩ :=
    token_opaque tokens world (fun _ => file₁) (fun _ => file₂) ["whoami"] fun _ _ => hdiffer
  exact ⟨by decide, hdiffer, hexit, hpieces⟩

end AccountAdmin
