import AccountAdmin.Proofs.Console.Drawing
import AccountAdmin.Proofs.Json.Indented
import AccountAdmin.Proofs.Program.FailureShown
import AccountAdmin.Proofs.Service.CallReader

/-!
# The output in JSON

In JSON the output of a one-shot run is for another program to read, so it is one document or
nothing.  Three things make up for that.  The events of a command that show data are counted: there
is at most one, though a command may fetch the current user first and draw a list behind a notice
(`Command.length_documents_told`).  What a command prints on its own is no more than one document
either, and if it prints one it tells the terminal nothing (`Command.output_json`).  And whatever
the service puts into a record, the text of the data is a document that says just these data, since
strings are escaped (`Datum.document`).

All messages are kept off the output: they go to the error stream (`Terminal.show_message`).

* `Datum`: the data that a command can show.
* `Event.isMessage`: the events that are messages.
* `json_output_is_document`: the run as a whole.
-/

namespace AccountAdmin

/-! ## Data -/

/-- The data that a command shows in JSON. -/
inductive Datum : Json → Prop where
  | user (u : CurrentUser) : Datum (.array [(SessionRow.ofUser u).toJson])
  | users (us : List UserRecord) : Datum (.array (us.map fun u => (UserRow.ofRecord u).toJson))
  | status (authenticated persisted : Bool) (baseUrl : String) :
      Datum (.object [("authenticated", .bool authenticated), ("base_url", .string baseUrl),
        ("persisted", .bool persisted)])
  | config (baseUrl path : String) (connect read : Option UInt64) (persisted : Bool) :
      Datum (.object [("base_url", .string baseUrl), ("config_file", .string path),
        ("connect_timeout_secs", Station.secondsJson connect),
        ("read_timeout_secs", Station.secondsJson read), ("session_persisted", .bool persisted)])

namespace Json

theorem fits_sessionRow {depth : Nat} (r : SessionRow) : Fits (depth + 1) r.toJson := by
  rw [SessionRow.toJson]
  refine .object ?_
  simp only [List.forall_mem_cons]
  exact ⟨fits_optionalId r.id, .string _, .string _, .bool _, .bool _, fun f hf => nomatch hf⟩

theorem fits_userRow {depth : Nat} (r : UserRow) : Fits (depth + 2) r.toJson := by
  have hactions : Fits (depth + 1) (.array (r.actions.map .string)) := by
    refine .array fun v hv => ?_
    obtain ⟨action, -, rfl⟩ := List.mem_map.1 hv
    exact .string action
  rw [UserRow.toJson]
  refine .object ?_
  simp only [List.forall_mem_cons]
  exact ⟨.string _, .string _, .string _, .string _, .string _, hactions, fun f hf => nomatch hf⟩

theorem fits_seconds {depth : Nat} (n : Option UInt64) : Fits depth (Station.secondsJson n) := by
  cases n with
  | none => exact .null
  | some n =>
    have hmin : integerMin ≤ (n.toNat : Int) := by
      rw [integerMin]
      omega
    have hmax : (n.toNat : Int) ≤ integerMax := by
      have hlt := n.toNat_lt
      rw [integerMax]
      omega
    exact .integer hmin hmax

end Json

namespace Datum

variable {v : Json}

theorem fits (h : Datum v) : Json.Fits Json.maxDepth v := by
  cases h with
  | user u =>
    have hitems : ∀ w ∈ [(SessionRow.ofUser u).toJson], Json.Fits 126 w :=
      fun w hw => List.mem_singleton.1 hw ▸ Json.fits_sessionRow _
    exact .array hitems
  | users us =>
    have hitems : ∀ w ∈ us.map fun u => (UserRow.ofRecord u).toJson, Json.Fits 126 w := by
      intro w hw
      obtain ⟨u, -, rfl⟩ := List.mem_map.1 hw
      exact Json.fits_userRow _
    exact .array hitems
  | status authenticated persisted baseUrl =>
    have hfields : ∀ f ∈ [("authenticated", Json.bool authenticated), ("base_url", .string baseUrl),
        ("persisted", .bool persisted)], Json.Fits 126 f.2 := by
      simp only [List.forall_mem_cons]
      exact ⟨.bool _, .string _, .bool _, fun f hf => nomatch hf⟩
    exact .object hfields
  | config baseUrl path connect read persisted =>
    have hfields : ∀ f ∈ [("base_url", Json.string baseUrl), ("config_file", .string path),
        ("connect_timeout_secs", Station.secondsJson connect),
        ("read_timeout_secs", Station.secondsJson read), ("session_persisted", .bool persisted)],
        Json.Fits 126 f.2 := by
      simp only [List.forall_mem_cons]
      exact ⟨.string _, .string _, Json.fits_seconds _, Json.fits_seconds _, .bool _,
        fun f hf => nomatch hf⟩
    exact .object hfields

/-- The text of data is a document that says the data. -/
theorem document (h : Datum v) : Json.Document v v.indented.toList := Json.document_indented h.fits

/-- The text of data does not end with a line feed of its own. -/
theorem getLast?_indented (h : Datum v) : v.indented.toList.getLast? ≠ some '\n' := by
  cases h with
  | user | users =>
    rw [Json.getLast?_indented_array]
    decide
  | status | config =>
    rw [Json.getLast?_indented_object]
    decide

/-- The document that an event becomes is one of data. -/
theorem of_event {echo : Bool} {ev : Event} (h : ev.document? echo = some v) : Datum v := by
  cases ev with
  | applyUser u =>
    rw [Event.document?] at h
    split at h
    · exact Option.some.inj h ▸ .user u
    · cases h
  | drawUserList us => exact Option.some.inj h ▸ .users us
  | openModal | closeModal | notify | reportError | passwordChangeRequired => cases h

end Datum

/-- What stands on the output of a run in JSON. -/
inductive JsonOutput : List String → Prop where
  | empty : JsonOutput []
  | document {v : Json} (h : Datum v) : JsonOutput [v.indented ++ "\n"]

/-! ## What the terminal is told -/

/-- The documents that the terminal is to show in JSON. -/
def documents (told : List Telling) : List Json := told.filterMap fun x => x.event.document? x.echo

theorem documents_append (told more : List Telling) :
    documents (told ++ more) = documents told ++ documents more := List.filterMap_append

theorem Outcome.documents_told {σ α : Type} (o : Outcome σ α) (echo : Bool) :
    documents (o.told echo) = o.events.filterMap (Event.document? echo) := by
  rw [documents, Outcome.told, List.filterMap_map]
  rfl

theorem Outcome.Draws.length_documents {σ α : Type} {echo : Bool} {n : Nat} {o : Outcome σ α}
    (h : o.Draws echo n) : (documents (o.told echo)).length ≤ n := by
  rw [o.documents_told]
  exact h

/-- What comes out of what the terminal is told, in JSON. -/
theorem Terminal.output_show_json {t : Terminal} (hformat : t.format = .json)
    (told : List Telling) : (told.flatMap t.show).filterMap Piece.output? =
      (documents told).map fun v => v.indented ++ "\n" := by
  induction told with
  | nil => rfl
  | cons x told ih =>
    rw [List.flatMap_cons, List.filterMap_append, ih, Terminal.show,
      Terminal.output_render_json hformat, documents, documents, List.filterMap_cons]
    cases x.event.document? x.echo <;> rfl

/-- Whether an event is a message to the operator: a notice, a hint or an error. -/
def Event.isMessage : Event → Bool
  | notify _ | reportError _ | passwordChangeRequired | openModal .changePassword => true
  | applyUser _ | drawUserList _ | closeModal _ | openModal _ => false

/-- In JSON messages are shown, and they are kept off the output. -/
theorem Terminal.show_message {t : Terminal} (hformat : t.format = .json) {x : Telling}
    (h : x.event.isMessage = true) : t.show x ≠ [] ∧ ∀ p ∈ t.show x, p.stream = .errors := by
  obtain ⟨echo, ev⟩ := x
  have hone {p : Piece} (hp : p.stream = .errors) : [p] ≠ [] ∧ ∀ q ∈ [p], q.stream = .errors :=
    ⟨List.cons_ne_nil p [], fun q hq => List.mem_singleton.1 hq ▸ hp⟩
  cases ev with
  | applyUser | drawUserList | closeModal => cases h
  | openModal modal =>
    cases modal with
    | changePassword => exact hone rfl
    | login | editProfile | newUser => cases h
  | notify text =>
    rw [Terminal.show, render, if_pos hformat]
    exact hone rfl
  | reportError e => exact hone rfl
  | passwordChangeRequired =>
    refine ⟨List.cons_ne_nil _ _, fun p hp => ?_⟩
    rw [Terminal.show, render, List.mem_cons, List.mem_singleton] at hp
    rcases hp with rfl | rfl
    · rfl
    · rfl

/-! ## Commands -/

namespace Station

variable {α : Type} (s : Station)

/-- The current user is fetched in front of an action, and is not shown then. -/
theorem length_documents_withUser {next : Console ConfigSlot → Outcome ConfigSlot α}
    (hnext : ∀ c, (next c).Draws true 1) : (documents (s.toldWithUser next)).length ≤ 1 := by
  have hfirst := s.console.draws_refreshUser_of_not_echo.length_documents
  rw [toldWithUser, documents_append, List.length_append]
  cases s.console.refreshUser.result with
  | ok u =>
    have hlast := (hnext s.console.refreshUser.console).length_documents
    dsimp only
    omega
  | error e =>
    have hnone : (documents []).length = 0 := rfl
    dsimp only
    omega

/-- A record is fetched in front of an action, and is not shown then. -/
theorem length_documents_withRecord (id : UserId)
    {next : UserRecord → Console ConfigSlot → Outcome ConfigSlot α}
    (hnext : ∀ u c, (next u c).Draws true 1) :
    (documents (s.toldWithRecord id next)).length ≤ 1 :=
  ((s.console.draws_perform (.get id)).andThen hnext).length_documents

end Station

namespace Command

/-- A command shows data once at most. -/
theorem length_documents_told (command : Command) (s : Station) :
    (documents (command.told s)).length ≤ 1 := by
  cases command with
  | login credentials remember =>
    exact (s.console.draws_login credentials remember).length_documents
  | logout => exact s.console.draws_logout.length_documents
  | status | config | shell => exact Nat.zero_le 1
  | whoami => exact s.console.draws_refreshUser.length_documents
  | passwd old new again =>
    rw [told]
    refine s.length_documents_withUser fun c => ?_
    exact Nat.le_succ_of_le (c.draws_changePassword old new again)
  | profile displayName =>
    rw [told]
    exact s.length_documents_withUser fun c => c.draws_updateProfile displayName
  | listUsers => exact s.console.draws_listUsers.length_documents
  | getUser id => exact (s.console.draws_showUser id).length_documents
  | createUser user => exact (s.console.draws_addUser user).length_documents
  | setUserEnabled id enabled =>
    rw [told]
    exact s.length_documents_withRecord id fun u c => c.draws_setUserEnabled u enabled
  | deleteUser id =>
    rw [told]
    exact s.length_documents_withRecord id fun u c => c.draws_deleteUser u
  | resetPassword id =>
    rw [told]
    refine s.length_documents_withRecord id fun u c => ?_
    exact Nat.le_succ_of_le (c.draws_resetUserPassword u)

/-- What a command tells the terminal comes to one document or nothing. -/
theorem output_told_json {s : Station} (hformat : s.terminal.format = .json) (command : Command) :
    JsonOutput (((command.told s).flatMap s.terminal.show).filterMap Piece.output?) := by
  rw [Terminal.output_show_json hformat]
  have hdatum : ∀ v ∈ documents (command.told s), Datum v := by
    intro v hv
    obtain ⟨x, -, hx⟩ := List.mem_filterMap.1 hv
    exact .of_event hx
  have hlength := command.length_documents_told s
  generalize documents (command.told s) = vs at hdatum hlength
  match vs, hlength with
  | [], _ => exact .empty
  | [v], _ => exact .document (hdatum v List.mem_cons_self)

/-- A command that prints data on its own tells the terminal nothing. -/
theorem output_own_json {s : Station} (hformat : s.terminal.format = .json) (command : Command) :
    (command.own s).filterMap Piece.output? = [] ∨
      command.told s = [] ∧ JsonOutput ((command.own s).filterMap Piece.output?) := by
  cases command with
  | login credentials remember =>
    refine .inl ?_
    rw [own]
    split
    · rw [if_pos (.inr hformat)]
      rfl
    · rfl
  | status =>
    refine .inr ⟨rfl, ?_⟩
    rw [own, Station.status, Station.print]
    dsimp only
    rw [if_pos hformat]
    exact .document (.status _ _ _)
  | config =>
    refine .inr ⟨rfl, ?_⟩
    rw [own, Station.showConfig]
    cases s.file.load with
    | error fault => exact .empty
    | ok config =>
      dsimp only
      rw [if_pos hformat]
      exact .document (.config _ _ _ _ _)
  | logout | whoami | passwd | profile | listUsers | getUser | createUser | setUserEnabled
  | deleteUser | resetPassword | shell => exact .inl rfl

/-- What comes out of a command in JSON is one document or nothing. -/
theorem output_json {s : Station} (hformat : s.terminal.format = .json) (command : Command) :
    JsonOutput ((command.run s).pieces.filterMap Piece.output?) := by
  rw [command.pieces_run, List.filterMap_append]
  rcases command.output_own_json hformat with hown | ⟨htold, hown⟩
  · rw [hown, List.append_nil]
    exact command.output_told_json hformat
  · rw [htold]
    exact hown

end Command

/-! ## Runs -/

/-- The text that a run prints on the output. -/
def Report.output (report : Report) : String :=
  String.join (report.pieces.filterMap Piece.output?)

theorem JsonOutput.of_run {world : Surroundings} {words : List String} {invocation : Invocation}
    (hread : Line.readProgram world.env words = .ok invocation)
    (hformat : invocation.format = .json) (hshell : invocation.command ≠ some .shell) :
    JsonOutput ((Program.run world words).pieces.filterMap Piece.output?) := by
  cases hstart : Program.start? world words with
  | none =>
    obtain ⟨text, -, hpieces⟩ := Program.run_of_start?_eq_none hread hstart
    rw [hpieces]
    exact .empty
  | some start =>
    obtain ⟨s, command⟩ := start
    obtain ⟨hcommand, hterminal⟩ := Program.start?_of_readProgram hread hstart
    have hne : command ≠ .shell := fun h => hshell (h ▸ hcommand)
    have hending (ending : Ending) :
        (Shell.endingPieces s.terminal ending).filterMap Piece.output? = [] := by
      cases ending <;> rfl
    rw [Program.run_of_start? hstart, Program.runAt_of_ne_shell world s hne]
    dsimp only [Program.reportOf]
    rw [List.filterMap_append, hending, List.append_nil]
    exact command.output_json (hterminal ▸ hformat)

/-- A run prints what its terminal is told. -/
theorem Program.mem_pieces_of_mem_told {world : Surroundings} {words : List String}
    {invocation : Invocation} (hread : Line.readProgram world.env words = .ok invocation)
    (hshell : invocation.command ≠ some .shell) {x : Telling} (hx : x ∈ told world words)
    {p : Piece} (hp : p ∈ (terminalOf world invocation).show x) : p ∈ (run world words).pieces := by
  rw [told] at hx
  cases hstart : start? world words with
  | none =>
    rw [hstart] at hx
    cases hx
  | some start =>
    obtain ⟨s, command⟩ := start
    obtain ⟨hcommand, hterminal⟩ := start?_of_readProgram hread hstart
    have hne : command ≠ .shell := fun h => hshell (h ▸ hcommand)
    rw [hstart] at hx
    rw [run_of_start? hstart, runAt_of_ne_shell world s hne]
    refine List.mem_append_left _ ?_
    rw [command.pieces_run, hterminal]
    exact List.mem_append_left _ (List.mem_flatMap.2 ⟨x, hx, hp⟩)

/-- **In JSON the output is one document or nothing.**  A one-shot run in JSON prints nothing on the
output, or one document that says its data, with one line feed behind it.  All messages that the
terminal is told of are shown, and they are shown on the error stream. -/
theorem json_output_is_document (world : Surroundings) (words : List String)
    {invocation : Invocation} (hread : Line.readProgram world.env words = .ok invocation)
    (hformat : invocation.format = .json) (hshell : invocation.command ≠ some .shell) :
    let report := Program.run world words
    let terminal := Program.terminalOf world invocation
    (report.output = "" ∨ ∃ v doc, Datum v ∧ Json.Document v doc.toList ∧
        doc.toList.getLast? ≠ some '\n' ∧ report.output = doc ++ "\n") ∧
      ∀ x ∈ Program.told world words, x.event.isMessage = true →
        terminal.show x ≠ [] ∧ ∀ p ∈ terminal.show x, p ∈ report.pieces ∧ p.stream = .errors := by
  intro report terminal
  constructor
  · have houtput := JsonOutput.of_run hread hformat hshell
    rw [Report.output]
    generalize report.pieces.filterMap Piece.output? = texts at houtput
    cases houtput with
    | empty => exact .inl rfl
    | document h =>
      exact .inr ⟨_, _, h, h.document, h.getLast?_indented, String.empty_append⟩
  · intro x hx hmessage
    obtain ⟨hne, hstream⟩ := terminal.show_message hformat hmessage
    exact ⟨hne, fun p hp => ⟨Program.mem_pieces_of_mem_told hread hshell hx hp, hstream p hp⟩⟩

/-- Somebody enables user 7 and is shown the list of users in JSON: the list is on the output, with
the quote in a name escaped, and the notice that stands in front of it is not. -/
theorem json_output_is_document_behind_notice :
    let world : Surroundings :=
      { files := fun _ => .file
          "[session]\ntoken = \"t\"\nbase_url = \"http://localhost:8080/rest\"\n".toUTF8
        peer := .scripted [.answered ⟨200, some "\x7b\"userId\":7,\"username\":\"bob\"\x7d".toUTF8⟩,
          .answered ⟨204, none⟩,
          .answered ⟨200, some "[\x7b\"userId\":7,\"username\":\"b\\\"b\"\x7d]".toUTF8⟩] }
    let words := ["--format", "json", "user", "enable", "7"]
    let report := Program.run world words
    report.pieces.head? = some (.hint "User @bob enabled.\n") ∧
      ∃ v doc, Datum v ∧ Json.Document v doc.toList ∧ report.output = doc ++ "\n" := by
  intro world words report
  let invocation : Invocation :=
    ⟨.json, false, none, none, some (.setUserEnabled { value := 7 } true)⟩
  have hread : Line.readProgram world.env words = .ok invocation := rfl
  have hhead : report.pieces.head? = some (.hint "User @bob enabled.\n") := by decide +kernel
  have hne : report.output ≠ "" := by decide +kernel
  obtain ⟨houtput, -⟩ := json_output_is_document world words hread rfl (by decide)
  obtain ⟨v, doc, hdatum, hdocument, -, hdoc⟩ := houtput.resolve_left hne
  exact ⟨hhead, v, doc, hdatum, hdocument, hdoc⟩

end AccountAdmin
