import AccountAdmin.Proofs.Config.OwnedSlot
import AccountAdmin.Proofs.Program.TokenConfinement

/-!
# What a run does to the configuration file

Whatever a run is asked for and whatever the service replies, it touches the configuration file on
three occasions only: a login that is to be remembered succeeds, somebody signs out, or a request
that carried a token is refused with status 401.  On each of these it uses the slot of the file
once (`Happening.use?`), through the base URL of the run, and so the file after a run is the file
after these uses (`Session.slot_foldl`).  What uses of the slot do to a file is known: they keep
the settings and fill or empty the slot.

The last of them decides what the slot holds in the end, and a file that was not there comes about
by a login only (`SlotUse.fileAfter_eq_absent_iff`).  The base URL that is asked for on the command
line goes into the session table, and never into the settings.

* `Happening.use?`: what a happening does with the slot.
* `config_file_after_run`: the run as a whole.
-/

namespace AccountAdmin

/-! ## Files that are not there -/

theorem ConfigFile.saved_ne_absent (c : Config) : saved c ≠ absent := by
  intro h
  cases h

namespace SlotUse

variable {f : ConfigFile} {server : ServerSettings} {slot : Option SessionRecord}

/-- A use leaves no file behind exactly if there was none and nothing is stored. -/
theorem file_eq_absent_iff (u : SlotUse) (h : f.Holds server slot) :
    u.file f = .absent ↔ f = .absent ∧ ∀ token, u.action ≠ .store token := by
  obtain ⟨baseUrl, action⟩ := u
  cases action with
  | load =>
    have hload (token : String) : SlotAction.load ≠ .store token := SlotAction.noConfusion
    exact (and_iff_left hload).symm
  | store token =>
    have hstored : (⟨baseUrl, .store token⟩ : SlotUse).file f ≠ .absent := by
      rw [file]
      dsimp only
      rw [ConfigSlot.store_eq, h.replace]
      exact ConfigFile.saved_ne_absent _
    exact iff_of_false hstored fun hnone => hnone.2 token rfl
  | remove =>
    have hremove (token : String) : SlotAction.remove ≠ .store token := SlotAction.noConfusion
    rw [and_iff_left hremove, file]
    dsimp only
    rw [ConfigSlot.remove_eq]
    by_cases hexists : f.exists? = true
    · rw [if_pos hexists, h.replace]
      have hpresent : f ≠ .absent := by
        rintro rfl
        cases hexists
      exact iff_of_false (ConfigFile.saved_ne_absent _) hpresent
    · rw [if_neg hexists]

/-- A file comes about by storing only. -/
theorem fileAfter_eq_absent_iff (uses : List SlotUse) (h : f.Holds server slot) :
    fileAfter uses f = .absent ↔ f = .absent ∧ ∀ u ∈ uses, ∀ token, u.action ≠ .store token := by
  induction uses generalizing f slot with
  | nil => simp [fileAfter]
  | cons u uses ih =>
    have hrest : fileAfter uses (u.file f) = .absent ↔
        u.file f = .absent ∧ ∀ v ∈ uses, ∀ token, v.action ≠ .store token := ih (u.holds_file h)
    have hcons : fileAfter (u :: uses) f = fileAfter uses (u.file f) := rfl
    rw [hcons, hrest, u.file_eq_absent_iff h, List.forall_mem_cons, and_assoc]

theorem slotAfter_append (uses : List SlotUse) (u : SlotUse) (slot : Option SessionRecord) :
    slotAfter (uses ++ [u]) slot = u.act (slotAfter uses slot) := by
  rw [slotAfter, List.foldl_append]
  rfl

end SlotUse

/-! ## Sessions -/

namespace Happening

/-- What a happening does with the slot for a base URL, if it does anything with it. -/
def use? (baseUrl : String) : Happening → Option SlotUse
  | exchanged x => if x.expires then some ⟨baseUrl, .remove⟩ else none
  | signedIn token keep => if keep then some ⟨baseUrl, .store token⟩ else none
  | signedOut => some ⟨baseUrl, .remove⟩

/-- Whether a happening bears on the configuration file: a login that is to be remembered, a logout,
and a token that is refused. -/
def bearsOnFile : Happening → Bool
  | exchanged x => x.expires
  | signedIn _ keep => keep
  | signedOut => true

/-- The session that a happening leaves in the configuration file. -/
def left (baseUrl : String) : Happening → Option SessionRecord
  | signedIn token _ => some ⟨token, some baseUrl⟩
  | exchanged _ | signedOut => none

variable {baseUrl : String} {k : Happening}

theorem use?_eq_none (h : k.bearsOnFile = false) : k.use? baseUrl = none := by
  cases k with
  | exchanged x =>
    rw [use?, if_neg]
    exact Bool.eq_false_iff.1 h
  | signedIn token keep =>
    rw [use?, if_neg]
    exact Bool.eq_false_iff.1 h
  | signedOut => cases h

/-- What bears on the file uses the slot, and what was in the slot before does not matter. -/
theorem use?_eq_some (baseUrl : String) (h : k.bearsOnFile = true) :
    ∃ u, k.use? baseUrl = some u ∧ ∀ slot, u.act slot = k.left baseUrl := by
  cases k with
  | exchanged x => exact ⟨⟨baseUrl, .remove⟩, if_pos h, fun slot => rfl⟩
  | signedIn token keep => exact ⟨⟨baseUrl, .store token⟩, if_pos h, fun slot => rfl⟩
  | signedOut => exact ⟨⟨baseUrl, .remove⟩, rfl, fun slot => rfl⟩

/-- What stores a token is a login that is to be remembered. -/
theorem eq_signedIn_of_use? {u : SlotUse} {token : String} (hu : k.use? baseUrl = some u)
    (hstore : u.action = .store token) : k = .signedIn token true := by
  cases k with
  | exchanged x =>
    rw [use?] at hu
    split at hu
    · obtain rfl := Option.some.inj hu
      cases hstore
    · cases hu
  | signedIn t keep =>
    cases keep with
    | true =>
      obtain rfl := Option.some.inj hu
      obtain rfl := SlotAction.store.inj hstore
      rfl
    | false => cases hu
  | signedOut =>
    obtain rfl := Option.some.inj hu
    cases hstore

/-- The uses that are made of the slot. -/
def uses (baseUrl : String) (events : List Happening) : List SlotUse :=
  events.filterMap (use? baseUrl)

theorem uses_append (events more : List Happening) :
    uses baseUrl (events ++ more) = uses baseUrl events ++ uses baseUrl more :=
  List.filterMap_append

/-- Nothing is done with the slot while nothing bears on the file. -/
theorem uses_eq_nil {events : List Happening} (h : ∀ k ∈ events, k.bearsOnFile = false) :
    uses baseUrl events = [] := List.filterMap_eq_nil_iff.2 fun k hk => use?_eq_none (h k hk)

/-- The last event that bears on the file decides what is in the slot. -/
theorem slotAfter_uses {earlier later : List Happening} (hk : k.bearsOnFile = true)
    (hlater : ∀ j ∈ later, j.bearsOnFile = false) (slot : Option SessionRecord) :
    SlotUse.slotAfter (uses baseUrl (earlier ++ k :: later)) slot = k.left baseUrl := by
  obtain ⟨u, hu, hact⟩ := use?_eq_some baseUrl hk
  have huses : uses baseUrl (earlier ++ k :: later) = uses baseUrl earlier ++ [u] := by
    have hnone : later.filterMap (use? baseUrl) = [] := uses_eq_nil hlater
    have hlast : uses baseUrl (k :: later) = [u] := by
      rw [uses, List.filterMap_cons_some hu, hnone]
    rw [uses_append, hlast]
  rw [huses, SlotUse.slotAfter_append]
  exact hact _

/-- A token is stored exactly if there is a login that is to be remembered. -/
theorem forall_uses_ne_store {events : List Happening} :
    (∀ u ∈ uses baseUrl events, ∀ token, u.action ≠ .store token) ↔
      ∀ token, .signedIn token true ∉ events := by
  constructor
  · intro h token hmem
    have huse : (⟨baseUrl, .store token⟩ : SlotUse) ∈ uses baseUrl events :=
      List.mem_filterMap.2 ⟨.signedIn token true, hmem, rfl⟩
    exact h _ huse token rfl
  · intro h u hu token hstore
    obtain ⟨k, hk, huse⟩ := List.mem_filterMap.1 hu
    exact h token (eq_signedIn_of_use? huse hstore ▸ hk)

end Happening

namespace Session

/-- What happens to a session uses its slot, or leaves it alone. -/
theorem slot_act (s : Session ConfigSlot) (k : Happening) : (k.act s).slot =
    ⟨SlotUse.fileAfter (k.use? s.slot.baseUrl).toList s.slot.file, s.slot.baseUrl⟩ := by
  obtain ⟨token, file, baseUrl⟩ := s
  -- a slot is told by its file once its base URL is known
  have heta {slot : ConfigSlot} (h : slot.baseUrl = baseUrl) : slot = ⟨slot.file, baseUrl⟩ := by
    rw [← h]
  have hremove := heta (ConfigSlot.baseUrl_remove ⟨file, baseUrl⟩)
  cases k with
  | exchanged x =>
    cases hx : x.expires with
    | true =>
      rw [Happening.act, Happening.use?, if_pos hx, if_pos hx]
      exact hremove
    | false =>
      have hnot : ¬x.expires = true := Bool.eq_false_iff.1 hx
      rw [Happening.act, Happening.use?, if_neg hnot, if_neg hnot]
      rfl
  | signedIn t keep =>
    cases keep with
    | true => exact heta (ConfigSlot.baseUrl_replace ⟨file, baseUrl⟩ _)
    | false => rfl
  | signedOut => exact hremove

theorem slot_foldl (s : Session ConfigSlot) (events : List Happening) :
    (events.foldl Happening.act s).slot =
      ⟨SlotUse.fileAfter (Happening.uses s.slot.baseUrl events) s.slot.file, s.slot.baseUrl⟩ := by
  induction events generalizing s with
  | nil => rfl
  | cons k events ih =>
    have hsplit : Happening.uses s.slot.baseUrl (k :: events) =
        (k.use? s.slot.baseUrl).toList ++ Happening.uses s.slot.baseUrl events := by
      rw [Happening.uses, List.filterMap_cons]
      cases k.use? s.slot.baseUrl <;> rfl
    rw [List.foldl_cons, ih, slot_act, hsplit, SlotUse.fileAfter, SlotUse.fileAfter,
      SlotUse.fileAfter, List.foldl_append]

end Session

/-! ## Runs -/

namespace Program

variable {world : Surroundings} {words : List String} {path : String} {config : Config}

/-- The file after a run is the file after the uses that the run makes of the slot. -/
theorem file_run (hpath : path? world.env world.defaultPath words = some path)
    (hload : (world.files path).load = .ok config) :
    ∃ base, baseUrl? world words = some base ∧ (run world words).file = some
      (path, SlotUse.fileAfter (Happening.uses base (course world words)) (world.files path)) := by
  rw [path?] at hpath
  cases hread : Line.readProgram world.env words with
  | error stop =>
    rw [hread] at hpath
    cases hpath
  | ok invocation =>
    rw [hread] at hpath
    obtain ⟨command, hcommand, rfl⟩ := Option.map_eq_some_iff.1 hpath
    change (world.files (pathOf world invocation)).load = .ok config at hload
    have hbase : baseUrl? world words = some (invocation.url.getD config.server.baseUrl) := by
      rw [baseUrl?, setup?, hread]
      dsimp only
      rw [hload]
      rfl
    refine ⟨_, hbase, ?_⟩
    cases hstation : stationOf world invocation with
    | error fault =>
      have hstart : start? world words = none := by
        rw [start?, hread]
        dsimp only
        rw [hcommand, hstation]
        rfl
      have hcourse : course world words = [] := by rw [course, hstart]
      rw [hcourse, run, hread]
      dsimp only
      rw [hcommand]
      dsimp only
      rw [runCommand, hstation]
      rfl
    | ok s =>
      have hstart := start?_of_stationOf hread hcommand hstation
      obtain ⟨client, hclient, hs⟩ := stationOf_eq_ok hstation
      obtain ⟨config', hload', -, hsession, -, -⟩ := ConfigFile.client_eq_ok hclient
      obtain rfl : config' = config := Except.ok.inj (hload'.symm.trans hload)
      obtain ⟨exit, pieces, last, hrun, hlast, hcourse⟩ :=
        reportOf_runAt servicePath_call world s command
      have hevents : course world words = courseAt world s command := by rw [course, hstart]
      have hslot := s.console.client.session.slot_foldl (courseAt world s command)
      rw [← hcourse.session_eq] at hslot
      have hfirst : s.console.client.session.slot =
          ⟨world.files (pathOf world invocation), invocation.url.getD config'.server.baseUrl⟩ := by
        rw [hs, hsession]
        rfl
      rw [hfirst] at hslot
      have hplace : s.path = pathOf world invocation := by rw [hs]
      rw [run_of_start? hstart, hrun, reportOf, Station.file, hslot, hlast, hplace, hevents]
      rfl

/-- A run that is over before it looks at a configuration file does nothing to it. -/
theorem file_run_of_path?_eq_none (h : path? world.env world.defaultPath words = none) :
    (run world words).file = none := by
  rw [path?] at h
  rw [run]
  cases hread : Line.readProgram world.env words with
  | error stop => rfl
  | ok invocation =>
    rw [hread] at h
    dsimp only
    rw [Option.map_eq_none_iff.1 h]

end Program

/-- **What a run does to the configuration file.**  A run that does not get as far as looking for
the file leaves it alone.  For any other one let there be a directory, and a file that can be
loaded or none.  If nothing in the course of the run bears on the file, then it is what it was.  If
something does, then the last of it decides which session is loaded afterwards: a login that is to
be remembered leaves its token, with the base URL of the run, and a logout and a refused token
leave none.  The settings are those of before in any case, and where there was no file there is one
exactly if there was a login that is to be remembered. -/
theorem config_file_after_run (world : Surroundings) (words : List String) :
    (Program.path? world.env world.defaultPath words = none →
      (Program.run world words).file = none) ∧
    ∀ path server session, Program.path? world.env world.defaultPath words = some path →
      (world.files path).Holds server session →
      let events := Program.course world words
      ∃ after, (Program.run world words).file = some (path, after) ∧
        ((∀ k ∈ events, k.bearsOnFile = false) → after = world.files path) ∧
        (∀ earlier k later, events = earlier ++ k :: later → k.bearsOnFile = true →
          (∀ j ∈ later, j.bearsOnFile = false) → ∃ base,
            Program.baseUrl? world words = some base ∧ after.load = .ok ⟨server, k.left base⟩) ∧
        (∃ left, after.load = .ok ⟨server, left⟩) ∧
        (world.files path = .absent →
          (after = .absent ↔ ∀ token, .signedIn token true ∉ events)) := by
  refine ⟨Program.file_run_of_path?_eq_none, fun path server session hpath hbefore => ?_⟩
  intro events
  obtain ⟨base, hbase, hfile⟩ := Program.file_run hpath hbefore.load
  have hholds := SlotUse.holds_fileAfter (Happening.uses base events) hbefore
  refine ⟨_, hfile, fun hquiet => ?_, fun earlier k later hsplit hk hlater => ?_,
    ⟨_, hholds.load⟩, fun habsent => ?_⟩
  · rw [Happening.uses_eq_nil hquiet]
    rfl
  · have hleft : SlotUse.slotAfter (Happening.uses base events) session = k.left base := by
      rw [hsplit]
      exact Happening.slotAfter_uses hk hlater session
    exact ⟨base, hbase, hleft ▸ hholds.load⟩
  · have habsentAfter := SlotUse.fileAfter_eq_absent_iff (Happening.uses base events) hbefore
    rw [and_iff_right habsent, Happening.forall_uses_ne_store] at habsentAfter
    exact habsentAfter

/-- Somebody signs in at another service, to be remembered.  The file then holds the token for that
service, and the settings that it held before. -/
theorem config_file_after_run_elsewhere :
    let server : ServerSettings := { baseUrl := "http://host/rest", readTimeout := some 30 }
    let before := ConfigFile.saved ⟨server, none⟩
    let world : Surroundings :=
      { files := fun _ => before
        peer := .scripted [.answered
          ⟨200, some "\x7b\"user\":\x7b\"userId\":7\x7d,\"authToken\":\"new\"\x7d".toUTF8⟩] }
    let words :=
      ["--url", "http://other/rest", "auth", "login", "-u", "bob", "-p", "pw", "--remember"]
    ∃ after, (Program.run world words).file = some ("lanadmin.toml", after) ∧
      after.load = .ok ⟨server, some ⟨"new", some "http://other/rest"⟩⟩ := by
  intro server before world words
  have hpath : Program.path? world.env world.defaultPath words = some "lanadmin.toml" := by
    decide +kernel
  have hbefore : (world.files "lanadmin.toml").Holds server none := by
    refine ⟨nofun, ConfigFile.load_saved ⟨?_, ?_⟩⟩
    · exact fun n hn => nomatch hn
    · intro n hn
      obtain rfl := Option.some.inj hn
      decide
  have hbase : Program.baseUrl? world words = some "http://other/rest" := by decide +kernel
  have hbears : (Program.course world words).map Happening.bearsOnFile = [false, true] := by
    decide +kernel
  have hleft : (Program.course world words).map (Happening.left "http://other/rest") =
      [none, some ⟨"new", some "http://other/rest"⟩] := by decide +kernel
  obtain ⟨after, hfile, -, hlast, -, -⟩ :=
    (config_file_after_run world words).2 "lanadmin.toml" server none hpath hbefore
  -- the reply to the credentials is followed by the login, and there is nothing else
  obtain ⟨x, rest, hcourse, -, hrest⟩ := List.map_eq_cons_iff.1 hbears
  obtain ⟨k, more, rfl, hk, hmore⟩ := List.map_eq_cons_iff.1 hrest
  obtain rfl := List.map_eq_nil_iff.1 hmore
  obtain ⟨base, hbase', hload⟩ := hlast [x] k [] hcourse hk (List.forall_mem_nil _)
  obtain rfl : base = "http://other/rest" := Option.some.inj (hbase'.symm.trans hbase)
  rw [hcourse] at hleft
  have hkleft : k.left "http://other/rest" = some ⟨"new", some "http://other/rest"⟩ :=
    (List.cons.inj (List.cons.inj hleft).2).1
  rw [hkleft] at hload
  exact ⟨after, hfile, hload⟩

end AccountAdmin
