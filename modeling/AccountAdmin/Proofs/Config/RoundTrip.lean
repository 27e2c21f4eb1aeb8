import AccountAdmin.Config.File
import AccountAdmin.Proofs.Toml.Document
import AccountAdmin.Proofs.Toml.IntegerRange

/-!
# Configurations saved and loaded

A configuration that can be written is what its text is read as (`Config.ofText_of_text?`), whatever
characters its URLs and its token have.  Only timeouts beyond the range of signed 64-bit integers
cannot be written, and these are never loaded (`Config.writable_of_ofText`).

For the file this means that what is saved is loaded (`ConfigFile.load_saved`), and that what is
loaded can be saved again where there is a directory, with another session or without one
(`ConfigFile.writable_of_load`, `ConfigFile.save_eq_ok`).  `config_round_trip` says all of this of
one attempt to save.
-/

namespace AccountAdmin

open Toml (Entries Value Section Scalar IsBareKey)

/-! ## The text of a configuration -/

namespace Config

/-- Whether a number of seconds can be written. -/
def WritableSeconds (seconds : Option UInt64) : Prop :=
  ∀ n, seconds = some n → n.toNat < 0x8000000000000000

/-- Whether the configuration can be written; only its timeouts matter. -/
structure Writable (c : Config) : Prop where
  connect : WritableSeconds c.server.connectTimeout
  read : WritableSeconds c.server.readTimeout

/-- The entry of a number of seconds, if it is set. -/
def secondsEntry (key : String) : Option UInt64 → List (String × Scalar)
  | none => []
  | some n => [(key, .count n.toNat)]

/-- The table of the settings. -/
def serverSection (s : ServerSettings) : Section :=
  ⟨"server", ("base_url", .text s.baseUrl) ::
    (secondsEntry "connect_timeout_secs" s.connectTimeout ++
      secondsEntry "read_timeout_secs" s.readTimeout)⟩

/-- The tables of a configuration. -/
def sections (c : Config) : List Section :=
  serverSection c.server :: (c.session.map sessionSection).toList

theorem secondsEntry?_eq_some (key : String) {seconds : Option UInt64}
    {entry : List (String × Scalar)} :
    secondsEntry? key seconds = some entry ↔
      WritableSeconds seconds ∧ entry = secondsEntry key seconds := by
  cases seconds with
  | none =>
    constructor
    · intro h
      exact ⟨fun _ hn => (nomatch hn), (Option.some.inj h).symm⟩
    · rintro ⟨-, rfl⟩
      rfl
  | some n =>
    by_cases hn : n.toNat < 0x8000000000000000
    · rw [ secondsEntry?, if_pos hn]
      constructor
      · intro h
        exact ⟨fun _ hm => Option.some.inj hm ▸ hn, (Option.some.inj h).symm⟩
      · rintro ⟨-, rfl⟩
        rfl
    · rw [ secondsEntry?, if_neg hn]
      constructor
      · intro h
        cases h
      · rintro ⟨h, -⟩
        exact absurd (h n rfl) hn

/-- A configuration has a text exactly if its timeouts can be written. -/
theorem text?_eq_some {c : Config} {s : String} :
    c.text? = some s ↔ c.Writable ∧ s = Toml.document c.sections := by
  constructor
  · intro h
    obtain ⟨server, hserver, rfl⟩ := Option.map_eq_some_iff.1 h
    obtain ⟨connect, hconnect, hserver⟩ := Option.bind_eq_some_iff.1 hserver
    obtain ⟨read, hread, hserver⟩ := Option.bind_eq_some_iff.1 hserver
    obtain ⟨hc, rfl⟩ := (secondsEntry?_eq_some _).1 hconnect
    obtain ⟨hr, rfl⟩ := (secondsEntry?_eq_some _).1 hread
    refine ⟨⟨hc, hr⟩, ?_⟩
    rw [← Option.some.inj hserver]
    rfl
  · rintro ⟨h, rfl⟩
    have hconnect := (secondsEntry?_eq_some "connect_timeout_secs").2 ⟨h.connect, rfl⟩
    have hread := (secondsEntry?_eq_some "read_timeout_secs").2 ⟨h.read, rfl⟩
    have hserver : serverSection? c.server = some (serverSection c.server) := by
      rw [serverSection?, hconnect, hread]
      rfl
    rw [text?, hserver]
    rfl

/-! ## Its tables are well formed -/

theorem isBareKey_names : ∀ key ∈ ["server", "session", "base_url", "token", "connect_timeout_secs",
    "read_timeout_secs"], IsBareKey key := by
  decide

theorem mem_secondsEntry {key : String} {seconds : Option UInt64} {entry : String × Scalar}
    (h : entry ∈ secondsEntry key seconds) :
    entry.1 = key ∧ (WritableSeconds seconds → entry.2.InRange) := by
  cases seconds with
  | none => cases h
  | some n =>
    rw [secondsEntry, List.mem_singleton] at h
    subst h
    exact ⟨rfl, fun hn => hn n rfl⟩

theorem serverSection_wellFormed {c : Config} (h : c.Writable) :
    (serverSection c.server).WellFormed where
  name := isBareKey_names "server" (by decide)
  keys := by
    intro entry hentry
    refine isBareKey_names entry.1 ?_
    rcases List.mem_cons.1 hentry with rfl | hentry
    · simp
    rcases List.mem_append.1 hentry with hentry | hentry
    · simp [(mem_secondsEntry hentry).1]
    · simp [(mem_secondsEntry hentry).1]
  nodup := by
    unfold serverSection
    cases c.server.connectTimeout <;> cases c.server.readTimeout <;> simp [secondsEntry]
  inRange := by
    intro entry hentry
    rcases List.mem_cons.1 hentry with rfl | hentry
    · exact trivial
    rcases List.mem_append.1 hentry with hentry | hentry
    · exact (mem_secondsEntry hentry).2 h.connect
    · exact (mem_secondsEntry hentry).2 h.read

theorem mem_sessionSection {s : SessionRecord} {entry : String × Scalar}
    (h : entry ∈ (sessionSection s).entries) :
    (entry.1 = "token" ∨ entry.1 = "base_url") ∧ entry.2.InRange := by
  rcases List.mem_cons.1 h with rfl | h
  · exact ⟨.inl rfl, trivial⟩
  · cases hurl : s.baseUrl with
    | none =>
      rw [hurl] at h
      cases h
    | some url =>
      rw [hurl] at h
      rw [List.mem_singleton.1 h]
      exact ⟨.inr rfl, trivial⟩

theorem sessionSection_wellFormed (s : SessionRecord) : (sessionSection s).WellFormed where
  name := isBareKey_names "session" (by decide)
  keys := by
    intro entry hentry
    refine isBareKey_names entry.1 ?_
    rcases (mem_sessionSection hentry).1 with h | h
    · simp [h]
    · simp [h]
  nodup := by
    unfold sessionSection
    cases s.baseUrl <;> simp
  inRange := fun entry hentry => (mem_sessionSection hentry).2

theorem read_document_sections {c : Config} (h : c.Writable) :
    Toml.read (Toml.document c.sections) = some (c.sections.map Section.table) := by
  refine Toml.read_document (fun s hs => ?_) ?_
  · rcases List.mem_cons.1 hs with rfl | hs
    · exact serverSection_wellFormed h
    · rw [Option.mem_toList, Option.map_eq_some_iff] at hs
      obtain ⟨record, -, rfl⟩ := hs
      exact sessionSection_wellFormed record
  · unfold sections
    cases c.session <;> simp [serverSection, sessionSection]

/-! ## Its tables read back -/

theorem serverOf?_table {c : Config} (h : c.Writable) :
    serverOf? (serverSection c.server).table.2 = some c.server := by
  have hseconds (n : UInt64) : secondsOf? (.integer n.toNat) = some n := by
    rw [secondsOf?, if_pos (Int.natCast_nonneg _), Int.toNat_natCast, UInt64.ofNat_toNat]
  obtain ⟨⟨baseUrl, connect, read⟩, session⟩ := c
  show serverOfEntries? (serverSection ⟨baseUrl, connect, read⟩).values = _
  cases connect <;> cases read <;>
    simp [serverOfEntries?, entry?, serverSection, secondsEntry, Section.values, Scalar.value,
      Entries.find?, textOf?, hseconds]

theorem sessionOf?_table (s : SessionRecord) : sessionOf? (sessionSection s).table.2 = some s := by
  obtain ⟨token, baseUrl⟩ := s
  show sessionOfEntries? (sessionSection ⟨token, baseUrl⟩).values = _
  cases baseUrl <;>
    simp [sessionOfEntries?, entry?, sessionSection, Section.values, Scalar.value, Entries.find?,
      textOf?]

theorem ofEntries?_sections {c : Config} (h : c.Writable) :
    ofEntries? (c.sections.map Section.table) = some c := by
  have hserver := serverOf?_table h
  have hfind : Entries.find? "server" (c.sections.map Section.table) =
      some (serverSection c.server).table.2 := rfl
  obtain ⟨server, session⟩ := c
  cases session with
  | none =>
    have hnone : Entries.find? "session" ((Config.mk server none).sections.map Section.table) =
        none := rfl
    rw [ofEntries?, entry?, entry?, hfind, hnone]
    dsimp only
    rw [hserver]
    rfl
  | some record =>
    have hsome : Entries.find? "session"
        ((Config.mk server (some record)).sections.map Section.table) =
        some (sessionSection record).table.2 := rfl
    rw [ofEntries?, entry?, entry?, hfind, hsome]
    dsimp only
    rw [hserver, sessionOf?_table]
    rfl

/-- The text of a configuration is read as that configuration. -/
theorem ofText_of_text? {c : Config} {s : String} (h : c.text? = some s) : ofText s = some c := by
  obtain ⟨hwritable, rfl⟩ := text?_eq_some.1 h
  rw [ofText, read_document_sections hwritable, Option.bind_some, ofEntries?_sections hwritable]

/-! ## Loaded configurations can be written -/

theorem secondsOf?_writable {v : Value} (hv : v.Bounded) {n : UInt64} (h : secondsOf? v = some n) :
    n.toNat < 0x8000000000000000 := by
  unfold secondsOf? at h
  split at h
  · next m =>
    cases hv with
    | integer hm =>
      split at h
      · have hlt : m.toNat < 0x8000000000000000 := by omega
        have hsize : m.toNat < UInt64.size := Nat.lt_trans hlt (by decide)
        cases h
        rw [UInt64.toNat_ofNat_of_lt' hsize]
        exact hlt
      · cases h
  · cases h

theorem entry?_writable {entries : Entries} (hentries : entries.Bounded) {key : String}
    {seconds : Option UInt64}
    (h : entry? entries key none (fun v => (secondsOf? v).map some) = some seconds) :
    WritableSeconds seconds := by
  unfold entry? at h
  split at h
  · cases h
    exact fun _ hn => nomatch hn
  · next hfind =>
    obtain ⟨n, hn, rfl⟩ := Option.map_eq_some_iff.1 h
    intro m hm
    cases hm
    exact secondsOf?_writable (hentries.find? hfind) hn

theorem serverOfEntries?_writable {entries : Entries} (hentries : entries.Bounded)
    {s : ServerSettings} (h : serverOfEntries? entries = some s) :
    WritableSeconds s.connectTimeout ∧ WritableSeconds s.readTimeout := by
  obtain ⟨baseUrl, -, h⟩ := Option.bind_eq_some_iff.1 h
  obtain ⟨connect, hconnect, h⟩ := Option.bind_eq_some_iff.1 h
  obtain ⟨read, hread, h⟩ := Option.bind_eq_some_iff.1 h
  cases h
  exact ⟨entry?_writable hentries hconnect, entry?_writable hentries hread⟩

theorem serverOf?_writable {v : Value} (hv : v.Bounded) {s : ServerSettings}
    (h : serverOf? v = some s) :
    WritableSeconds s.connectTimeout ∧ WritableSeconds s.readTimeout := by
  unfold serverOf? at h
  split at h
  · cases hv with
    | table hentries => exact serverOfEntries?_writable hentries h
  · exact serverOfEntries?_writable Entries.bounded_nil h
  · next url connect read more =>
    cases hv with
    | array hitems =>
      obtain ⟨baseUrl, -, h⟩ := Option.bind_eq_some_iff.1 h
      obtain ⟨c, hc, h⟩ := Option.bind_eq_some_iff.1 h
      obtain ⟨r, hr, h⟩ := Option.bind_eq_some_iff.1 h
      cases h
      have hconnect := secondsOf?_writable (hitems connect (by simp)) hc
      have hread := secondsOf?_writable (hitems read (by simp)) hr
      exact ⟨fun _ hn => Option.some.inj hn ▸ hconnect, fun _ hn => Option.some.inj hn ▸ hread⟩
  · cases h

theorem writable_default : Config.Writable {} :=
  ⟨fun _ h => (nomatch h), fun _ h => (nomatch h)⟩

theorem writable_of_ofText {s : String} {c : Config} (h : ofText s = some c) : c.Writable := by
  obtain ⟨entries, hread, h⟩ := Option.bind_eq_some_iff.1 h
  obtain ⟨server, hserver, h⟩ := Option.bind_eq_some_iff.1 h
  obtain ⟨session, -, h⟩ := Option.bind_eq_some_iff.1 h
  cases h
  unfold entry? at hserver
  split at hserver
  · cases hserver
    exact ⟨fun _ h => (nomatch h), fun _ h => (nomatch h)⟩
  · next hfind =>
    obtain ⟨hconnect, hread⟩ := serverOf?_writable ((Toml.read_bounded hread).find? hfind) hserver
    exact ⟨hconnect, hread⟩

/-- The session makes no difference to whether a configuration can be written. -/
theorem Writable.withSession {c : Config} (h : c.Writable) (session : Option SessionRecord) :
    Config.Writable { c with session } :=
  ⟨h.connect, h.read⟩

end Config

/-! ## The file -/

namespace ConfigFile

theorem writable_of_load {f : ConfigFile} {c : Config} (h : f.load = .ok c) : c.Writable := by
  cases f with
  | nowhere => cases h; exact Config.writable_default
  | absent => cases h; exact Config.writable_default
  | directory => cases h
  | file content =>
    unfold load at h
    dsimp only at h
    split at h
    · cases h
    split at h
    · cases h
    · next hread =>
      cases h
      exact Config.writable_of_ofText hread

/-- The file that a configuration is saved to. -/
def saved (c : Config) : ConfigFile := file (Toml.document c.sections).toUTF8

/-- What is saved is loaded. -/
theorem load_saved {c : Config} (h : c.Writable) : (saved c).load = .ok c := by
  have htext := Config.ofText_of_text? (Config.text?_eq_some.2 ⟨h, rfl⟩)
  rw [saved, load, Text.fromUTF8?_toUTF8]
  dsimp only
  rw [htext]

/-- A configuration is saved exactly if it can be written and there is a place for a file. -/
theorem save_eq_ok {f f' : ConfigFile} {c : Config} :
    f.save c = .ok f' ↔
      c.Writable ∧ (f = absent ∨ ∃ content, f = file content) ∧ f' = saved c := by
  constructor
  · intro h
    unfold save at h
    split at h
    · cases h
    · next htext =>
      obtain ⟨hwritable, rfl⟩ := Config.text?_eq_some.1 htext
      cases f with
      | nowhere => cases h
      | directory => cases h
      | absent => cases h; exact ⟨hwritable, .inl rfl, rfl⟩
      | file content => cases h; exact ⟨hwritable, .inr ⟨content, rfl⟩, rfl⟩
  · rintro ⟨hwritable, hplace, rfl⟩
    have htext := Config.text?_eq_some.2 ⟨hwritable, rfl⟩
    unfold save
    rw [htext]
    rcases hplace with rfl | ⟨content, rfl⟩
    · rfl
    · rfl

/-! ## Attempts to save -/

/-- There is a place for a file, whether or not one is there. -/
def HasPlace (f : ConfigFile) : Prop := f = absent ∨ ∃ content, f = file content

/-- What is there after an attempt to save a configuration. -/
def afterSave (f : ConfigFile) (c : Config) : ConfigFile :=
  match f.save c with
  | .error _ => f
  | .ok f' => f'

theorem afterSave_of_ok {f f' : ConfigFile} {c : Config} (h : f.save c = .ok f') :
    f.afterSave c = f' := by
  rw [afterSave, h]

theorem afterSave_of_error {f : ConfigFile} {c : Config} {fault : ConfigFault}
    (h : f.save c = .error fault) : f.afterSave c = f := by
  rw [afterSave, h]

/-- Where there is a place for a file, only a timeout can be the reason why saving fails. -/
theorem HasPlace.save_error {f : ConfigFile} (hplace : f.HasPlace) {c : Config}
    {fault : ConfigFault} (h : f.save c = .error fault) : fault = .unprintable := by
  cases htext : c.text? with
  | none =>
    rw [save, htext] at h
    exact (Except.error.inj h).symm
  | some s =>
    have hok : f.save c = .ok (saved c) :=
      save_eq_ok.2 ⟨(Config.text?_eq_some.1 htext).1, hplace, rfl⟩
    rw [hok] at h
    cases h

end ConfigFile

theorem Config.writable_iff {c : Config} :
    c.Writable ↔ ∀ n : UInt64,
      c.server.connectTimeout = some n ∨ c.server.readTimeout = some n →
        n.toNat ≤ 0x7FFFFFFFFFFFFFFF := by
  constructor
  · rintro ⟨hconnect, hread⟩ n (hn | hn)
    · have hlt := hconnect n hn
      omega
    · have hlt := hread n hn
      omega
  · intro h
    refine ⟨fun n hn => ?_, fun n hn => ?_⟩
    · have hle := h n (.inl hn)
      omega
    · have hle := h n (.inr hn)
      omega

/-- A configuration is saved exactly if its timeouts fit into signed 64-bit integers, and then it is
what is loaded from the place, whatever was there before and whatever characters its texts have.
Otherwise saving fails for that reason, and what was there is there still.  A configuration that was
loaded from anywhere can be saved. -/
theorem config_round_trip (f : ConfigFile) (hplace : f.HasPlace) (c : Config) :
    ((∃ f', f.save c = .ok f') ↔ ∀ n : UInt64,
      c.server.connectTimeout = some n ∨ c.server.readTimeout = some n →
        n.toNat ≤ 0x7FFFFFFFFFFFFFFF) ∧
    (∀ f', f.save c = .ok f' → f.afterSave c = f' ∧ f'.load = .ok c) ∧
    (∀ fault, f.save c = .error fault →
      fault.message = "Failed to serialize config" ∧ f.afterSave c = f) ∧
    ∀ g : ConfigFile, g.load = .ok c → ∃ f', f.save c = .ok f' := by
  have hsave : c.Writable → f.save c = .ok (.saved c) := fun hwritable =>
    ConfigFile.save_eq_ok.2 ⟨hwritable, hplace, rfl⟩
  refine ⟨?_, fun f' hf' => ?_, fun fault hfault => ?_, fun g hg => ?_⟩
  · rw [← Config.writable_iff]
    constructor
    · rintro ⟨f', hf'⟩
      exact (ConfigFile.save_eq_ok.1 hf').1
    · intro hwritable
      exact ⟨_, hsave hwritable⟩
  · obtain ⟨hwritable, -, rfl⟩ := ConfigFile.save_eq_ok.1 hf'
    exact ⟨ConfigFile.afterSave_of_ok hf', ConfigFile.load_saved hwritable⟩
  · refine ⟨?_, ConfigFile.afterSave_of_error hfault⟩
    rw [hplace.save_error hfault]
    rfl
  · exact ⟨_, hsave (ConfigFile.writable_of_load hg)⟩

/-- A token of quotes, backslashes, line ends, controls and accents comes back from a file that was
no text before, and a timeout that is too large leaves that file alone. -/
theorem config_round_trip_awkward :
    let f : ConfigFile := .file ⟨#[0xFF, 0x00]⟩
    let awkward : Config :=
      ⟨{ baseUrl := "", readTimeout := some 0x7FFFFFFFFFFFFFFF },
        some ⟨"\"\"\"'''\\\r\n\t\x07é", some "'\""⟩⟩
    let large : Config := ⟨{ connectTimeout := some 0x8000000000000000 }, none⟩
    f.HasPlace ∧ (f.afterSave awkward).load = .ok awkward ∧
      (¬ ∃ f', f.save large = .ok f') ∧ f.afterSave large = f := by
  intro f awkward large
  have hplace : f.HasPlace := .inr ⟨_, rfl⟩
  obtain ⟨hsaves, hloads, -, -⟩ := config_round_trip f hplace awkward
  obtain ⟨hlarge, -, hkept, -⟩ := config_round_trip f hplace large
  obtain ⟨f', hf'⟩ := hsaves.2 (by rintro n (h | h) <;> cases h; decide)
  obtain ⟨hafter, hload⟩ := hloads f' hf'
  have hfails : ¬ ∃ f', f.save large = .ok f' := fun hsaved =>
    absurd (hlarge.1 hsaved 0x8000000000000000 (.inl rfl)) (by decide)
  refine ⟨hplace, by rw [hafter, hload], hfails, ?_⟩
  cases hresult : f.save large with
  | error fault => exact (hkept fault hresult).2
  | ok f' => exact absurd ⟨f', hresult⟩ hfails

end AccountAdmin
