import AccountAdmin.Proofs.Console.ErrorContract
import AccountAdmin.Proofs.Program.TokenConfinement
import AccountAdmin.Proofs.Program.Turns
import Mathlib.Data.List.Induction

/-!
# When the status says that a token is saved

The status of a session is put together from two questions that have nothing to do with each other:
whether there is a token in memory, and whether there is one in the slot.  It says that the token is
saved if both are answered with yes.  So it may say so of a token that is not the one in the slot.

Almost everything that happens in a run keeps the two together: where the slot holds a token, it is
the one in memory (`Session.Mirrors`).  The exception is a login that is not to be remembered.  It
leaves the slot as it is, with a token that may have been there before, until the session is cleared
or another login follows (`Session.mirrors_or_unkept`).

`Station.SaysSaved` is about what is printed.  That it comes to the two questions is a fact about
the texts, which are told apart in every format and with every looks (`Station.saysSaved_iff`).

* `saved_status`: what is true of every run whenever the status says that the token is saved.
* `saved_status_of_other_token`: a run in which it says so of a token that is not saved.
-/

namespace AccountAdmin

/-! ## Memory and slot -/

/-- What has been stored in a slot is loaded, unless nothing can be loaded at all. -/
theorem ConfigSlot.load_store (token : String) (s : ConfigSlot) :
    TokenSlot.load (TokenSlot.store token s) = some token ∨
      TokenSlot.load (TokenSlot.store token s) = none := by
  obtain ⟨file, baseUrl⟩ := s
  rw [store_eq]
  cases hload : file.load with
  | error fault =>
    rw [replace_eq_self hload]
    exact .inr (load_eq_none hload)
  | ok config =>
    by_cases hnowhere : file = .nowhere
    · subst hnowhere
      exact .inr rfl
    · have hholds := ConfigFile.Holds.mk hnowhere hload
      have hsaved := hholds.saved (some ⟨token, some baseUrl⟩)
      have hissued : (⟨token, some baseUrl⟩ : SessionRecord).issuedBy baseUrl = true :=
        beq_self_eq_true (Endpoint.trimSlashes baseUrl)
      rw [hholds.replace]
      refine .inl ?_
      show ConfigSlot.token? _ = some token
      rw [token?, hsaved.load]
      simp [hissued]

namespace Session

/-- Where the slot holds a token, it is the one in memory. -/
def Mirrors (s : Session ConfigSlot) : Prop :=
  TokenSlot.load s.slot = none ∨ TokenSlot.load s.slot = s.token

theorem mirrors_start (slot : ConfigSlot) : (start slot).Mirrors := .inr rfl

theorem mirrors_clear (s : Session ConfigSlot) : s.clear.Mirrors :=
  .inl (LawfulTokenSlot.load_remove s.slot)

theorem mirrors_setToken (s : Session ConfigSlot) (token : String) :
    (s.setToken token true).Mirrors := (ConfigSlot.load_store token s.slot).symm

/-- A token that was set without being kept, and has not been ended since. -/
def Unkept (hs : List Happening) (token : Option String) : Prop :=
  ∃ before t after, hs = before ++ .signedIn t false :: after ∧ token = some t ∧
    ∀ k ∈ after, k.endsToken = false

/-- A token that is not kept stays so while nothing ends it. -/
theorem Unkept.append {hs : List Happening} {token : Option String} (h : Unkept hs token)
    {k : Happening} (hk : k.endsToken = false) : Unkept (hs ++ [k]) token := by
  obtain ⟨before, t, after, rfl, htoken, hafter⟩ := h
  refine ⟨before, t, after ++ [k], by simp, htoken, fun j hj => ?_⟩
  rcases List.mem_append.1 hj with hj | hj
  · exact hafter j hj
  · exact List.mem_singleton.1 hj ▸ hk

/-- Memory and slot are kept together by everything but a login that is not to be remembered. -/
theorem mirrors_or_unkept {s : Session ConfigSlot} (hstart : s.Mirrors) (hs : List Happening) :
    (hs.foldl Happening.act s).Mirrors ∨ Unkept hs (hs.foldl Happening.act s).token := by
  induction hs using List.reverseRecOn with
  | nil => exact .inl hstart
  | append_singleton hs k ih =>
    rw [List.foldl_append, List.foldl_cons, List.foldl_nil]
    cases k with
    | exchanged x =>
      cases hx : x.expires with
      | true =>
        rw [Happening.act, if_pos hx]
        exact .inl (mirrors_clear _)
      | false =>
        rw [Happening.act, if_neg (by simp [hx])]
        exact ih.imp_right fun h => h.append hx
    | signedIn t keep =>
      cases keep with
      | true => exact .inl (mirrors_setToken _ t)
      | false => exact .inr ⟨hs, t, [], rfl, rfl, by simp⟩
    | signedOut => exact .inl (mirrors_clear _)

theorem baseUrl_act (s : Session ConfigSlot) (k : Happening) :
    (k.act s).slot.baseUrl = s.slot.baseUrl := by
  cases k with
  | exchanged x =>
    rw [Happening.act]
    split
    · exact ConfigSlot.baseUrl_remove s.slot
    · rfl
  | signedIn token keep =>
    cases keep with
    | true => exact ConfigSlot.baseUrl_replace s.slot _
    | false => rfl
  | signedOut => exact ConfigSlot.baseUrl_remove s.slot

theorem baseUrl_foldl (s : Session ConfigSlot) (hs : List Happening) :
    (hs.foldl Happening.act s).slot.baseUrl = s.slot.baseUrl := by
  induction hs generalizing s with
  | nil => rfl
  | cons k hs ih => rw [List.foldl_cons, ih, baseUrl_act]

end Session

/-! ## What the status says -/

/-- A line determines its text. -/
theorem Terminal.line_injective {s t : String} (h : line s = line t) : s = t :=
  (String.append_left_inj "\n").1 (Piece.data.inj h)

namespace Station

/-- The status that says that there is a token and that it is saved. -/
def savedPiece (s : Station) : Piece :=
  let baseUrl := s.console.client.endpoint.baseUrl
  if s.terminal.format = .json then
    Terminal.json (.object [("authenticated", .bool true), ("base_url", .string baseUrl),
      ("persisted", .bool true)])
  else
    Terminal.line (s.terminal.paint .green ("Holding a token for " ++ baseUrl) ++ " (saved)")

/-- The status says that there is a token and that it is saved. -/
def SaysSaved (s : Station) : Prop := s.status.pieces = [s.savedPiece]

instance (s : Station) : Decidable s.SaysSaved :=
  inferInstanceAs (Decidable (s.status.pieces = [s.savedPiece]))

/-- The status in JSON is longer for every no in it. -/
theorem length_statusText (baseUrl : String) (authenticated persisted : Bool) :
    (Json.indentedText 0 (.object [("authenticated", .bool authenticated),
      ("base_url", .string baseUrl), ("persisted", .bool persisted)])).length =
      56 + (Json.stringText baseUrl).length + (if authenticated then 4 else 5) +
        (if persisted then 4 else 5) := by
  have hauthenticated : (Json.stringText "authenticated").length = 15 := by decide
  have hbaseUrl : (Json.stringText "base_url").length = 10 := by decide
  have hpersisted : (Json.stringText "persisted").length = 11 := by decide
  cases authenticated <;> cases persisted <;>
    simp [Json.indentedText, Json.indentedFields, Json.lineBreak, hauthenticated, hbaseUrl,
      hpersisted] <;> omega

/-- The status in JSON determines both answers. -/
theorem and_of_statusJson_eq {baseUrl : String} {authenticated persisted : Bool}
    (h : Terminal.json (.object [("authenticated", .bool authenticated),
        ("base_url", .string baseUrl), ("persisted", .bool persisted)]) =
      Terminal.json (.object [("authenticated", .bool true),
        ("base_url", .string baseUrl), ("persisted", .bool true)])) :
    authenticated = true ∧ persisted = true := by
  have htext := String.ofList_inj.1 (Terminal.line_injective h)
  have hlength := congrArg List.length htext
  rw [length_statusText, length_statusText] at hlength
  cases authenticated <;> cases persisted <;> simp at hlength ⊢

/-- The two ways to put the status in words differ early, whatever the looks. -/
theorem notLoggedIn_ne (t : Terminal) (baseUrl tail : String) :
    t.paint .dimmed "Not logged in" ≠
      t.paint .green ("Holding a token for " ++ baseUrl) ++ tail := by
  intro h
  have hthird := congrArg (fun s : String => s.toList[2]?) h
  rw [Terminal.paint, Terminal.paint] at hthird
  cases hcolours : t.colours with
  | false =>
    rw [hcolours] at hthird
    simp at hthird
  | true =>
    rw [hcolours] at hthird
    simp [Paint.apply, Paint.sequence, Paint.parameters] at hthird

/-- The status says so exactly if there is a token in memory and one in the slot. -/
theorem saysSaved_iff (s : Station) :
    s.SaysSaved ↔ s.console.client.session.hasToken = true ∧
      s.console.client.session.isPersisted = true := by
  rw [SaysSaved, status, print, savedPiece, Client.isAuthenticated]
  dsimp only
  generalize s.console.client.session.hasToken = authenticated
  generalize s.console.client.session.isPersisted = persisted
  constructor
  · intro h
    have hpiece := (List.cons.inj h).1
    by_cases hjson : s.terminal.format = .json
    · rw [if_pos hjson, if_pos hjson] at hpiece
      exact and_of_statusJson_eq hpiece
    · rw [if_neg hjson, if_neg hjson] at hpiece
      cases authenticated with
      | false => exact absurd (Terminal.line_injective hpiece) (notLoggedIn_ne _ _ _)
      | true =>
        cases persisted with
        | true => exact ⟨rfl, rfl⟩
        | false =>
          have htails := (String.append_right_inj _).1 (Terminal.line_injective hpiece)
          exact absurd htails (by decide)
  · rintro ⟨rfl, rfl⟩
    rfl

end Station

/-! ## Clients that are set up later -/

namespace ConfigFile

/-- A token with which every client starts that is set up as the file says for a base URL. -/
def Starts (f : ConfigFile) (baseUrl token : String) : Prop :=
  ∃ config, f.load = .ok config ∧
    ∀ url peer, url.getD config.server.baseUrl = baseUrl →
      ∃ client, f.client url peer = .ok client ∧ client.session.token = some token

/-- What the slot for a base URL holds is what clients start with, if the base URL is sound. -/
theorem starts_of_token? {f : ConfigFile} {baseUrl token : String} {root : Url}
    (hroot : ({ baseUrl } : Endpoint).resolve "/" = .ok root)
    (h : ConfigSlot.token? ⟨f, baseUrl⟩ = some token) : f.Starts baseUrl token := by
  cases hload : f.load with
  | error fault =>
    rw [ConfigSlot.token?, hload] at h
    cases h
  | ok config =>
    refine ⟨config, hload, fun url peer hbase => ?_⟩
    let endpoint : Endpoint :=
      { baseUrl
        connectTimeout := config.server.connectTimeout
        readTimeout := config.server.readTimeout }
    have hbuild : Client.build endpoint (.start (⟨f, baseUrl⟩ : ConfigSlot)) peer =
        .ok ⟨endpoint, .start ⟨f, baseUrl⟩, { peer }⟩ :=
      Client.build_eq_ok_iff.2 ⟨⟨root, hroot⟩, rfl⟩
    rw [client, hload]
    dsimp only
    rw [hbase, hbuild]
    exact ⟨_, rfl, h⟩

end ConfigFile

/-! ## Runs -/

namespace Program

variable {world : Surroundings} {words : List String} {before : List Happening} {s : Station}

/-- The session at a station that a run gets to is the fold of what has happened, from a session
that was started for the base URL of the run. -/
theorem Reaches.session_eq (h : Reaches world words before s) :
    ∃ base file root, baseUrl? world words = some base ∧
      ({ baseUrl := base } : Endpoint).resolve "/" = .ok root ∧
      s.console.client.session = before.foldl Happening.act (.start ⟨file, base⟩) := by
  obtain ⟨first, command, after, hstart, -, hcourse⟩ := h
  obtain ⟨url, config, file, hsetup, -, hbase, hsession, -⟩ := client_of_start? hstart
  obtain ⟨invocation, -, -, hstation⟩ := start?_eq_some hstart
  obtain ⟨client, hclient, rfl⟩ := stationOf_eq_ok hstation
  obtain ⟨-, -, -, -, -, root, hroot⟩ := ConfigFile.client_eq_ok hclient
  refine ⟨url.getD config.server.baseUrl, file, root, ?_, ?_, ?_⟩
  · rw [baseUrl?, hsetup]
    rfl
  · rw [← hroot, ← hbase]
    rfl
  · rw [hcourse.session_eq, hsession]

end Program

/-- **What it means that a token is saved.**  Whenever the status of a run says that the token is
saved, it is printed by the run, there is a token in memory, and there is one in the slot for the
base URL of the run, with which every client starts that is set up from the file for this base URL.
The two are the same, unless the one in memory comes from a login that was not to be remembered,
with nothing since that would have ended it. -/
theorem saved_status {world : Surroundings} {words : List String} {s : Station}
    (hturn : (s, .status) ∈ Program.turns world words) (hsaved : s.SaysSaved) :
    ∃ before base token stored, Program.Reaches world words before s ∧
      Program.baseUrl? world words = some base ∧
      (∃ printed more, (Program.run world words).pieces = printed ++ s.savedPiece :: more) ∧
      s.console.client.session.token = some token ∧
      ConfigSlot.token? ⟨s.file, base⟩ = some stored ∧
      s.file.Starts base stored ∧
      (stored = token ∨ Session.Unkept before (some token)) := by
  obtain ⟨before, hreaches⟩ := Program.reaches_of_mem_turns hturn
  obtain ⟨base, file, root, hbase, hroot, hsession⟩ := hreaches.session_eq
  obtain ⟨printed, more, hprinted⟩ := Program.pieces_of_mem_turns (by decide) hturn
  obtain ⟨hhas, hpersisted⟩ := s.saysSaved_iff.1 hsaved
  obtain ⟨token, htoken⟩ := Option.isSome_iff_exists.1 hhas
  obtain ⟨stored, hstored⟩ := Option.isSome_iff_exists.1 hpersisted
  have hslot : ConfigSlot.token? ⟨s.file, base⟩ = some stored := by
    have hown : s.console.client.session.slot.baseUrl = base := by
      rw [hsession, Session.baseUrl_foldl]
      rfl
    rw [← hown]
    exact hstored
  refine ⟨before, base, token, stored, hreaches, hbase, ⟨printed, more, ?_⟩, htoken, hslot,
    ConfigFile.starts_of_token? hroot hslot, ?_⟩
  · rw [hprinted, Command.run, hsaved]
    rfl
  · rcases Session.mirrors_or_unkept (Session.mirrors_start _) before with hmirrors | hunkept
    · rw [← hsession] at hmirrors
      rcases hmirrors with hnone | hsame
      · rw [hnone] at hstored
        cases hstored
      · exact .inl (Option.some.inj (by rw [← hstored, ← htoken, hsame]))
    · rw [← hsession, htoken] at hunkept
      exact .inr hunkept

/-- The file holds a token, and a status that is asked for at once says so, of this very token. -/
theorem saved_status_at_once :
    let world : Surroundings :=
      { files := fun _ => .file
          "[session]\ntoken = \"old\"\nbase_url = \"http://localhost:8080/rest\"\n".toUTF8
        peer := .absent }
    ∃ (s : Station) (base token : String),
      (s, .status) ∈ Program.turns world ["auth", "status"] ∧ s.SaysSaved ∧
      s.console.client.session.token = some token ∧ s.file.Starts base token := by
  intro world
  have hsays : ∃ turn ∈ Program.turns world ["auth", "status"],
      turn.2 = .status ∧ turn.1.SaysSaved := by decide +kernel
  obtain ⟨⟨s, c⟩, hturn, rfl, hsaved⟩ := hsays
  have hquiet : (Program.course world ["auth", "status"]).isEmpty = true := by decide +kernel
  obtain ⟨before, base, token, stored, ⟨-, -, after, -, hsplit, -⟩, -, -, htoken, -, hstarts,
    rfl | ⟨earlier, t, later, rfl, -⟩⟩ := saved_status hturn hsaved
  · exact ⟨s, base, stored, hturn, hsaved, htoken, hstarts⟩
  · -- nothing has happened up to there
    rw [hsplit] at hquiet
    simp at hquiet

/-- The file holds a token, a login in the shell brings another one, and the terminal says that the
session is not saved.  A status behind that says that it is, although the file still holds the old
token. -/
theorem saved_status_of_other_token :
    let world : Surroundings :=
      { files := fun _ => .file
          "[session]\ntoken = \"old\"\nbase_url = \"http://localhost:8080/rest\"\n".toUTF8
        input := "auth login -u bob -p pw\nauth status\n"
        peer := .scripted [.answered ⟨200, some "\x7b\x7d".toUTF8⟩,
          .answered ⟨200, some "\x7b\"user\":\x7b\x7d,\"authToken\":\"new\"\x7d".toUTF8⟩] }
    Terminal.hint {} .dimmed "Session not saved; pass --remember to keep it." ∈
        (Program.run world ["shell"]).pieces ∧
      ∃ turn ∈ Program.turns world ["shell"], turn.2 = .status ∧ turn.1.SaysSaved ∧
        turn.1.console.client.session.token = some "new" ∧
        ConfigSlot.token? ⟨turn.1.file, Endpoint.defaultBaseUrl⟩ = some "old" := by
  decide +kernel

end AccountAdmin
