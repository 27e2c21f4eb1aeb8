import AccountAdmin.Proofs.Console.Changes
import AccountAdmin.Proofs.Program.JsonOutput
import AccountAdmin.Proofs.Program.RequestScript

/-!
# The list of users in JSON

Between the body of the reply to the call for all users and the text on the output there are four
translations: bytes to a document, the items of the document to records, records to rows, and rows
to text.  None of them loses an item or changes their order.  The first two may fail, and then there
is no table at all, since the first item that is no record stops the second one.  The other two
cannot fail, and whoever reads the text finds in it what was in the records
(`UserRecord.shownAs_row`), whatever the texts of the records are made of.

* `UserRecord.ShownAs`: what the row of a record says, field by field.
* `ListsUsers`: the body of a reply is a list of users.
* `Program.run_listUsers`: the run up to the answer of the call, in any format.
* `user_list_in_json`: from the body of the reply to the text on the output.

The reader of bodies has limits (`deep_user_list_refused`), and so a list of users is meant to be
one within them.
-/

namespace AccountAdmin

/-! ## Rows -/

/-- What the row of a record says in JSON. -/
structure UserRecord.ShownAs (u : UserRecord) (row : Json) : Prop where
  id : row.field? "id" = some (.string (match u.id with
    | none => ""
    | some id => String.ofList (Text.decimalInt id.value)))
  username : row.field? "username" = some (.string u.username)
  displayName : row.field? "display_name" = some (.string u.displayName)
  role : row.field? "role" = some (.string (if u.admin then "admin" else "user"))
  status : row.field? "status" = some (.string (if u.disabled then "disabled" else "active"))
  actions : row.field? "actions" = some (.array
    (if u.disabled then [.string "enable", .string "delete"]
      else [.string "reset-password", .string "disable"]))

/-- Whoever reads the row of a record finds the record in it. -/
theorem UserRecord.shownAs_row (u : UserRecord) :
    u.ShownAs (UserRow.ofRecord u).toJson.canonical := by
  obtain ⟨id, username, displayName, admin, disabled⟩ := u
  constructor <;> rw [UserRow.toJson, Json.field?_canonical_object]
  · cases id <;> rfl
  · rfl
  · rfl
  · cases admin <;> rfl
  · cases disabled <;> rfl
  · cases disabled <;> rfl

theorem UserRecord.forall₂_shownAs (us : List UserRecord) :
    List.Forall₂ ShownAs us (us.map fun u => (UserRow.ofRecord u).toJson.canonical) := by
  rw [List.forall₂_map_right_iff, List.forall₂_same]
  exact fun u _ => u.shownAs_row

/-! ## Texts -/

/-- A document may have a gap behind it. -/
theorem Json.Document.append_gap {v : Json} {s g : List Char} (h : Document v s) (hg : Gap g) :
    Document v (s ++ g) := by
  obtain ⟨hfront, hv, hback⟩ := h
  rw [List.append_assoc, List.append_assoc]
  refine .mk hfront hv fun c hc => ?_
  rcases List.mem_append.1 hc with hc | hc
  · exact hback c hc
  · exact hg c hc

/-- The text of data, printed as a line, is read as the data. -/
theorem Datum.ofBytes_line {v : Json} (h : Datum v) :
    Json.ofBytes (v.indented ++ "\n").toUTF8 = some v.canonical := by
  have hgap : Json.Gap ['\n'] := fun c hc => List.mem_singleton.1 hc ▸ rfl
  refine Json.ofBytes_eq_some_iff.2 ⟨v, ⟨_, rfl, ?_⟩, rfl⟩
  rw [String.toList_append]
  exact h.document.append_gap hgap

/-! ## Bodies -/

/-- The body of a reply is an array, and its items are these users in this order. -/
def ListsUsers (bytes : ByteArray) (us : List UserRecord) : Prop :=
  ∃ items, Json.BodyDocument (.array items) bytes ∧
    List.Forall₂ (fun item u => UserRecord.ofJson item.canonical = .ok u) items us

/-- An array never reports an error of the service. -/
theorem Payload.ofBytes_eq_array_iff {bytes : ByteArray} {vs : List Json} :
    ofBytes bytes = .ok (.document (.array vs)) ↔
      ∃ items, Json.BodyDocument (.array items) bytes ∧ vs = items.map Json.canonical := by
  constructor
  · intro h
    generalize hresult : Except.ok (Payload.document (.array vs)) = result at h
    cases ofBytes_eq_iff.1 h with
    | malformed | reported => cases hresult
    | @carried v hdocument =>
      cases v with
      | array items =>
        refine ⟨items, hdocument, ?_⟩
        rw [Json.canonical, Json.canonicalItems_eq_map] at hresult
        exact Json.array.inj (Payload.document.inj (Except.ok.inj hresult))
      | _ =>
        rw [Json.canonical] at hresult
        cases hresult
  · rintro ⟨items, hdocument, rfl⟩
    rw [ofBytes_of_document hdocument, ofJson_canonical, Json.canonical,
      Json.canonicalItems_eq_map]
    rfl

/-- A body lists users exactly if it is decoded to their list. -/
theorem listsUsers_iff {bytes : ByteArray} {us : List UserRecord} : ListsUsers bytes us ↔
    (Payload.ofBytes bytes).bind (Payload.decode UserRecord.listOfJson) = .ok us := by
  rw [UserRecord.decode_list_eq_ok_iff]
  constructor
  · rintro ⟨items, hdocument, hus⟩
    exact ⟨_, Payload.ofBytes_eq_array_iff.2 ⟨items, hdocument, rfl⟩,
      List.forall₂_map_left_iff.2 hus⟩
  · rintro ⟨vs, hpayload, hus⟩
    obtain ⟨items, hdocument, rfl⟩ := Payload.ofBytes_eq_array_iff.1 hpayload
    exact ⟨items, hdocument, List.forall₂_map_left_iff.1 hus⟩

/-- The call for all users is answered exactly if the body of the reply lists them. -/
theorem Exchange.answer_list_eq_ok_iff_listsUsers {x : Exchange} {reply : Reply}
    {bytes : ByteArray} {us : List UserRecord} (hx : x.delivery = .answered reply)
    (hreply : reply.SpeaksByBody x.request.authorization.isSome) (hbody : reply.body = some bytes) :
    x.answer .list = .ok us ↔ ListsUsers bytes us := by
  rw [answer_list_eq_ok_iff, payload_of_speaksByBody hx hreply, hbody, listsUsers_iff,
    UserRecord.decode_list_eq_ok_iff]

/-! ## Runs -/

namespace Program

/-- A run at a station that asks for all users reports what the console comes to. -/
theorem runAt_listUsers (world : Surroundings) {s : Station} {sent : List Request}
    {events : List Event} {ok : Bool} (h : s.console.listUsers.ComesTo s.console sent events ok) :
    (runAt world s .listUsers).exit = (if ok then 0 else 1) ∧
      (runAt world s .listUsers).pieces = events.flatMap (s.terminal.render true) ∧
      (runAt world s .listUsers).sent = s.console.client.wire.sent ++ sent := by
  obtain ⟨hsent, rfl, rfl, -⟩ := h
  rw [runAt_of_ne_shell world s (by decide), Command.run, ← hsent]
  generalize s.console.listUsers = o
  rw [Station.turn]
  cases o.result with
  | ok us => exact ⟨rfl, List.append_nil _, rfl⟩
  | error e => exact ⟨rfl, List.append_nil _, rfl⟩

/-- A run that starts at a station where all users can be asked for draws them or fails, as the next
reply says. -/
theorem run_listUsers_of_request? {world : Surroundings} {words : List String} {s : Station}
    {r : Request} {replies : List Delivery} (hstart : start? world words = some (s, .listUsers))
    (hpeer : world.peer = .scripted replies) (hrequest : s.console.client.request? .list = some r) :
    (run world words).sent = [r] ∧
      ((∃ e, (Exchange.ofScript r replies).answer .list = .error e ∧
        (run world words).exit = 1 ∧
          (run world words).pieces = [s.terminal.failed e.message]) ∨
      ∃ us, (Exchange.ofScript r replies).answer .list = .ok us ∧
        (run world words).exit = 0 ∧
          (run world words).pieces = s.terminal.users us) := by
  obtain ⟨invocation, -, -, hstation⟩ := start?_eq_some hstart
  obtain ⟨-, hwire⟩ := load_of_stationOf hstation
  have hscript : s.console.client.wire.peer = .scripted replies := by rw [hwire, hpeer]
  have hnothing : s.console.client.wire.sent = [] := by rw [hwire]
  rw [run_of_start? hstart]
  rcases Console.listUsers_comesTo hrequest hscript with ⟨e, hanswer, h⟩ | ⟨us, hanswer, h⟩
  · obtain ⟨hexit, hpieces, hsent⟩ := runAt_listUsers world h
    rw [hnothing, List.nil_append] at hsent
    exact ⟨hsent, .inl ⟨e, hanswer, hexit, hpieces⟩⟩
  · obtain ⟨hexit, hpieces, hsent⟩ := runAt_listUsers world h
    rw [hnothing, List.nil_append] at hsent
    exact ⟨hsent, .inr ⟨us, hanswer, hexit, hpieces.trans (List.append_nil _)⟩⟩

/-- A run that asks for all users and sends a request for them draws them or fails, as the next
reply says. -/
theorem run_listUsers {world : Surroundings} {words : List String}
    {invocation : Invocation} {replies : List Delivery} {request : Request}
    (hread : Line.readProgram world.env words = .ok invocation)
    (hcommand : invocation.command = some .listUsers) (hpeer : world.peer = .scripted replies)
    (hsent : (run world words).sent = [request]) :
    (∃ e, (Exchange.ofScript request replies).answer .list = .error e ∧
      (run world words).exit = 1 ∧
        (run world words).pieces = [(terminalOf world invocation).failed e.message]) ∨
    ∃ us, (Exchange.ofScript request replies).answer .list = .ok us ∧
      (run world words).exit = 0 ∧
        (run world words).pieces = (terminalOf world invocation).users us := by
  cases hstart : start? world words with
  | none =>
    rw [sent_run, hstart] at hsent
    cases hsent
  | some start =>
    obtain ⟨s, command⟩ := start
    obtain ⟨hcommand', hterminal⟩ := start?_of_readProgram hread hstart
    obtain rfl : command = .listUsers := Option.some.inj (hcommand'.symm.trans hcommand)
    rw [← hterminal]
    cases hrequest : s.console.client.request? .list with
    | none =>
      -- then nothing would have been sent
      obtain ⟨_, -, -, hstation⟩ := start?_eq_some hstart
      obtain ⟨-, hwire⟩ := load_of_stationOf hstation
      obtain ⟨e, h⟩ := Console.listUsers_of_request?_eq_none hrequest
      obtain ⟨-, -, hnothing⟩ := runAt_listUsers world h
      rw [← run_of_start? hstart, hsent, hwire] at hnothing
      cases hnothing
    | some r =>
      obtain ⟨hone, hcases⟩ := run_listUsers_of_request? hstart hpeer hrequest
      obtain rfl : request = r := List.head_eq_of_cons_eq (hsent.symm.trans hone)
      exact hcases

end Program

/-- **The list of users loses and garbles nothing in JSON.**  Let a run be told to list all users in
JSON, let the request for them be sent, and let the reply be one that is up to its body.  The run
exits with zero exactly if the body lists users.  What it prints on the output is then read as an
array with one row for each of them, in their order, which says what is in the record.  If the body
lists no users, then nothing is printed on the output, and there is one line that says that
something is wrong. -/
theorem user_list_in_json {world : Surroundings} {words : List String} {invocation : Invocation}
    {request : Request} {reply : Reply} {rest : List Delivery} {bytes : ByteArray}
    (hread : Line.readProgram world.env words = .ok invocation)
    (hformat : invocation.format = .json) (hcommand : invocation.command = some .listUsers)
    (hpeer : world.peer = .scripted (.answered reply :: rest))
    (hsent : (Program.run world words).sent = [request])
    (hreply : reply.SpeaksByBody request.authorization.isSome) (hbody : reply.body = some bytes) :
    let report := Program.run world words
    (report.exit = 0 ↔ ∃ us, ListsUsers bytes us) ∧
      (∀ us, ListsUsers bytes us → ∃ rows, Json.ofBytes report.output.toUTF8 = some (.array rows) ∧
        List.Forall₂ UserRecord.ShownAs us rows) ∧
      ((¬∃ us, ListsUsers bytes us) → report.output = "" ∧ report.exit = 1 ∧
        (report.pieces.filter Piece.isError).length = 1) := by
  intro report
  have hlists (us : List UserRecord) :
      (Exchange.ofScript request (.answered reply :: rest)).answer .list = .ok us ↔
        ListsUsers bytes us :=
    Exchange.answer_list_eq_ok_iff_listsUsers rfl hreply hbody
  rcases Program.run_listUsers hread hcommand hpeer hsent with
    ⟨e, hanswer, hexit, hpieces⟩ | ⟨us, hanswer, hexit, hpieces⟩
  · have hnone : ¬∃ us, ListsUsers bytes us := by
      rintro ⟨us, hus⟩
      rw [(hlists us).2 hus] at hanswer
      cases hanswer
    refine ⟨iff_of_false ?_ hnone, fun us hus => absurd ⟨us, hus⟩ hnone, fun _ => ⟨?_, hexit, ?_⟩⟩
    · rw [hexit]
      decide
    · rw [Report.output, hpieces]
      rfl
    · rw [hpieces]
      rfl
  · have hsome : ListsUsers bytes us := (hlists us).1 hanswer
    refine ⟨iff_of_true hexit ⟨us, hsome⟩, fun us' hus' => ?_,
      fun hnone => absurd ⟨us, hsome⟩ hnone⟩
    obtain rfl : us' = us := Except.ok.inj (((hlists us').2 hus').symm.trans hanswer)
    have houtput : report.output =
        (Json.array (us'.map fun u => (UserRow.ofRecord u).toJson)).indented ++ "\n" := by
      have hdrawn := Terminal.output_render_json (t := Program.terminalOf world invocation) hformat
        true (.drawUserList us')
      rw [Report.output, hpieces]
      exact (congrArg String.join hdrawn).trans String.empty_append
    refine ⟨us'.map fun u => (UserRow.ofRecord u).toJson.canonical, ?_,
      UserRecord.forall₂_shownAs us'⟩
    rw [houtput, (Datum.users us').ofBytes_line, Json.canonical, Json.canonicalItems_eq_map,
      List.map_map]
    rfl

/-- A disabled user with a quote and a line feed in the name, and a user without a name and an
id. -/
theorem user_list_in_json_awkward :
    let body := "[\x7b\"userId\":-7,\"username\":\"b\\\"\\n\",\"disabled\":true\x7d, \x7b\x7d]"
    let world : Surroundings :=
      { files := fun _ => .absent, peer := .scripted [.answered ⟨200, some body.toUTF8⟩] }
    let report := Program.run world ["--format", "json", "user", "list"]
    report.exit = 0 ∧ ∃ rows, Json.ofBytes report.output.toUTF8 = some (.array rows) ∧
      List.Forall₂ UserRecord.ShownAs
        [{ id := some { value := -7 }, username := "b\"\n", disabled := true }, {}] rows := by
  intro body world report
  let invocation : Invocation := ⟨.json, false, none, none, some .listUsers⟩
  have hread : Line.readProgram world.env ["--format", "json", "user", "list"] = .ok invocation :=
    rfl
  have hlength : report.sent.length = 1 := by decide +kernel
  have hdecoded : ((Payload.ofBytes body.toUTF8).bind
      (Payload.decode UserRecord.listOfJson)).toOption = some
        [{ id := some { value := -7 }, username := "b\"\n", disabled := true }, {}] := by
    decide +kernel
  obtain ⟨request, hsent⟩ := List.length_eq_one_iff.1 hlength
  have hreply : Reply.SpeaksByBody ⟨200, some body.toUTF8⟩ request.authorization.isSome :=
    ⟨fun h => absurd h.1 (by decide), by decide⟩
  obtain ⟨hexit, hrows, -⟩ := user_list_in_json hread rfl rfl rfl hsent hreply rfl
  have hlists : ListsUsers body.toUTF8
      [{ id := some { value := -7 }, username := "b\"\n", disabled := true }, {}] := by
    refine listsUsers_iff.2 ?_
    cases hresult : (Payload.ofBytes body.toUTF8).bind (Payload.decode UserRecord.listOfJson) with
    | error e =>
      rw [hresult] at hdecoded
      cases hdecoded
    | ok us =>
      rw [hresult] at hdecoded
      exact congrArg _ (Option.some.inj hdecoded)
  exact ⟨hexit.2 ⟨_, hlists⟩, hrows _ hlists⟩

/-- A text of which nothing is read lists no users. -/
theorem not_listsUsers_of_unread {s : String} (hread : Json.readText s.toList = none)
    (us : List UserRecord) : ¬ListsUsers s.toUTF8 us := by
  rintro ⟨items, hdocument, -⟩
  have hsome := Json.ofBytes_eq_some_iff.2 ⟨_, hdocument, rfl⟩
  rw [Json.ofBytes, Text.fromUTF8?_toUTF8] at hsome
  dsimp only at hsome
  rw [Json.read, hread] at hsome
  cases hsome

/-- The body is an array, and its one item is a record with an unknown key, under which 126 arrays
stand inside of each other.  It is grammatical, but more deeply nested than what is read. -/
theorem deep_user_list_refused :
    let item : Json := .object [("x", Json.nestedArrays 125)]
    let body := "[\x7b\"x\":" ++ String.ofList (Json.brackets 125) ++ "\x7d]"
    let world : Surroundings :=
      { files := fun _ => .absent, peer := .scripted [.answered ⟨200, some body.toUTF8⟩] }
    let report := Program.run world ["--format", "json", "user", "list"]
    Json.Written 128 (.array [item]) body.toList ∧
      UserRecord.ofJson item.canonical = .ok UserRecord.guest ∧
        report.sent.length = 1 ∧ report.exit = 1 ∧ report.output = "" := by
  intro item body world report
  have hitem (v : Json) : UserRecord.ofJson (.object [("x", v)]) = .ok UserRecord.guest := rfl
  -- the text is written out, since its bytes are many
  have hbody : body.toList = '[' :: ('\x7b' :: ((Json.stringText "x" ++ ':' :: Json.brackets 125) ++
      ['\x7d']) ++ [']']) := by
    rw [String.toList_append, String.toList_append, String.toList_ofList, List.append_assoc]
    simp [Json.stringText, Json.escape]
  have hwritten : Json.Written 128 (.array [item]) body.toList := by
    have hmember := Json.member_stringText "x" (Json.written_nestedArrays 125)
    rw [hbody]
    exact .inr (.array (.last (Json.padded_of_text (.inr (.object (.last hmember))))))
  have hunread : Json.readText body.toList = none := by
    rw [hbody, ← Option.isNone_iff_eq_none]
    decide +kernel
  refine ⟨hwritten, hitem _, ?_⟩
  let invocation : Invocation := ⟨.json, false, none, none, some .listUsers⟩
  have hread : Line.readProgram world.env ["--format", "json", "user", "list"] = .ok invocation :=
    rfl
  have hasked : ((Program.stationOf world invocation).toOption.bind fun s =>
      s.console.client.request? .list).isSome = true := by decide +kernel
  cases hstation : Program.stationOf world invocation with
  | error fault =>
    rw [hstation] at hasked
    cases hasked
  | ok s =>
    have hs : (Except.ok s : Except SetupFault Station).toOption = some s := rfl
    rw [hstation, hs, Option.bind_some] at hasked
    obtain ⟨r, hr⟩ := Option.isSome_iff_exists.1 hasked
    have hstart := Program.start?_of_stationOf hread rfl hstation
    obtain ⟨hsent, ⟨e, -, hexit, hpieces⟩ | ⟨us, hanswer, -⟩⟩ :=
      Program.run_listUsers_of_request? hstart rfl hr
    · refine ⟨?_, hexit, ?_⟩
      · rw [hsent]
        rfl
      · rw [Report.output, hpieces]
        rfl
    · have hreply : Reply.SpeaksByBody ⟨200, some body.toUTF8⟩ r.authorization.isSome :=
        ⟨fun h => absurd h.1 (by decide), by decide⟩
      exact absurd ((Exchange.answer_list_eq_ok_iff_listsUsers rfl hreply rfl).1 hanswer)
        (not_listsUsers_of_unread hunread us)

end AccountAdmin
