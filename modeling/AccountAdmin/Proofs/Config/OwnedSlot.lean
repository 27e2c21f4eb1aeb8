import AccountAdmin.Proofs.Config.RoundTrip

/-!
# The configuration file as one slot with an owner

Every use of a `ConfigSlot` reads the whole file, changes its session table and writes the file
again, and every use may be made for another service.  Seen from outside that is a single slot,
which is empty or holds a token and perhaps the base URL of its owner (`SlotUse.act`,
`SlotUse.answer?`).

The two are connected by `ConfigFile.Holds`: there is a place for a file, and what is loaded are the
given settings and the content of the slot.  One use keeps the relation and gives the answer of the
slot (`SlotUse.holds_file`, `SlotUse.loaded?_eq_answer?`), and so does any sequence of uses
(`config_slot_refines_owned_slot`).  A file that cannot be loaded stays as it is.

* `SlotUse`: a use of the slot, through a service of its own.
* `SlotUse.file`, `SlotUse.loaded?`: what a use does to the file, and what it loads.
* `SlotUse.act`, `SlotUse.answer?`: the same for the slot with an owner.
-/

namespace AccountAdmin

/-! ## The slot of a file -/

namespace ConfigSlot

theorem store_eq (token : String) (s : ConfigSlot) :
    TokenSlot.store token s = s.replace (some { token, baseUrl := some s.baseUrl }) := rfl

theorem remove_eq (s : ConfigSlot) :
    TokenSlot.remove s = if s.file.exists? then s.replace none else s := rfl

theorem load_eq_none {s : ConfigSlot} {fault : ConfigFault} (h : s.file.load = .error fault) :
    TokenSlot.load s = none := by
  show s.token? = none
  rw [token?, h]

theorem replace_eq_self {s : ConfigSlot} {fault : ConfigFault} (h : s.file.load = .error fault)
    (session : Option SessionRecord) : s.replace session = s := by
  rw [replace, h]

theorem baseUrl_replace (s : ConfigSlot) (session : Option SessionRecord) :
    (s.replace session).baseUrl = s.baseUrl := by
  rw [replace]
  split
  · rfl
  · split <;> rfl

theorem baseUrl_remove (s : ConfigSlot) : (TokenSlot.remove s).baseUrl = s.baseUrl := by
  rw [remove_eq]
  split
  · exact baseUrl_replace s none
  · rfl

end ConfigSlot

/-! ## Uses of the slot -/

/-- What is done with the slot of a configuration file. -/
inductive SlotAction where
  | load
  | store (token : String)
  | remove
  deriving DecidableEq, Repr

/-- A use of the slot, through the service at a base URL. -/
structure SlotUse where
  baseUrl : String
  action : SlotAction
  deriving DecidableEq, Repr

namespace SlotUse

/-- The file after a use. -/
def file (u : SlotUse) (f : ConfigFile) : ConfigFile :=
  let slot : ConfigSlot := ⟨f, u.baseUrl⟩
  match u.action with
  | .load => f
  | .store token => (TokenSlot.store token slot).file
  | .remove => (TokenSlot.remove slot).file

/-- What a use loads from the file; other uses load nothing. -/
def loaded? (u : SlotUse) (f : ConfigFile) : Option (Option String) :=
  match u.action with
  | .load => some (TokenSlot.load (⟨f, u.baseUrl⟩ : ConfigSlot))
  | .store _ | .remove => none

/-- The file after a sequence of uses. -/
def fileAfter (uses : List SlotUse) (f : ConfigFile) : ConfigFile :=
  uses.foldl (fun f u => u.file f) f

/-- What a sequence of uses loads, in order. -/
def loads : List SlotUse → ConfigFile → List (Option String)
  | [], _ => []
  | u :: uses, f => (u.loaded? f).toList ++ loads uses (u.file f)

/-! ## The slot with an owner -/

/-- The content of the slot after a use. -/
def act (u : SlotUse) (slot : Option SessionRecord) : Option SessionRecord :=
  match u.action with
  | .load => slot
  | .store token => some { token, baseUrl := some u.baseUrl }
  | .remove => none

/-- The token that is loaded from the slot: the one of an owner that is the same service, slashes at
the end of base URLs aside. -/
def token? (baseUrl : String) : Option SessionRecord → Option String
  | some ⟨token, some own⟩ =>
    if Endpoint.trimSlashes own = Endpoint.trimSlashes baseUrl then some token else none
  | some ⟨_, none⟩ => none
  | none => none

/-- What a use loads from the slot. -/
def answer? (u : SlotUse) (slot : Option SessionRecord) : Option (Option String) :=
  match u.action with
  | .load => some (token? u.baseUrl slot)
  | .store _ | .remove => none

/-- The content of the slot after a sequence of uses. -/
def slotAfter (uses : List SlotUse) (slot : Option SessionRecord) : Option SessionRecord :=
  uses.foldl (fun slot u => u.act slot) slot

/-- What a sequence of uses loads from the slot, in order. -/
def answers : List SlotUse → Option SessionRecord → List (Option String)
  | [], _ => []
  | u :: uses, slot => (u.answer? slot).toList ++ answers uses (u.act slot)

/-- A token is loaded exactly if the slot holds it with an owner that is the same service. -/
theorem token?_eq_some {baseUrl token : String} {slot : Option SessionRecord} :
    token? baseUrl slot = some token ↔
      ∃ own, slot = some ⟨token, some own⟩ ∧
        Endpoint.trimSlashes own = Endpoint.trimSlashes baseUrl := by
  constructor
  · intro h
    unfold token? at h
    split at h
    · split at h
      · next held own hown =>
        cases h
        exact ⟨own, rfl, hown⟩
      · cases h
    · cases h
    · cases h
  · rintro ⟨own, rfl, hown⟩
    exact if_pos hown

theorem filter_issuedBy_eq_token? (baseUrl : String) (slot : Option SessionRecord) :
    (slot.filter (·.issuedBy baseUrl)).map (·.token) = token? baseUrl slot := by
  rcases slot with _ | ⟨token, _ | own⟩
  · rfl
  · rfl
  · by_cases hown : Endpoint.trimSlashes own = Endpoint.trimSlashes baseUrl
    · simp [Option.filter, SessionRecord.issuedBy, token?, hown]
    · simp [Option.filter, SessionRecord.issuedBy, token?, hown]

end SlotUse

/-! ## The file holds the content of a slot -/

namespace ConfigFile

/-- There is a place for a file, and what is loaded are the settings and the content of the slot. -/
structure Holds (f : ConfigFile) (server : ServerSettings) (slot : Option SessionRecord) :
    Prop where
  place : f ≠ nowhere
  load : f.load = .ok ⟨server, slot⟩

variable {f : ConfigFile} {server : ServerSettings} {slot : Option SessionRecord}

theorem Holds.save (h : f.Holds server slot) (session : Option SessionRecord) :
    f.save ⟨server, session⟩ = .ok (saved ⟨server, session⟩) := by
  have hwritable := (writable_of_load h.load).withSession session
  refine save_eq_ok.2 ⟨hwritable, ?_, rfl⟩
  cases f with
  | nowhere => exact absurd rfl h.place
  | absent => exact .inl rfl
  | directory => exact nomatch h.load
  | file content => exact .inr ⟨content, rfl⟩

theorem Holds.saved (h : f.Holds server slot) (session : Option SessionRecord) :
    (saved ⟨server, session⟩).Holds server session where
  place := fun hnowhere => nomatch hnowhere
  load := load_saved ((writable_of_load h.load).withSession session)

/-- The session table is replaced, whatever service the slot belongs to. -/
theorem Holds.replace (h : f.Holds server slot) (baseUrl : String)
    (session : Option SessionRecord) :
    (⟨f, baseUrl⟩ : ConfigSlot).replace session =
      ⟨ConfigFile.saved ⟨server, session⟩, baseUrl⟩ := by
  unfold ConfigSlot.replace
  dsimp only
  rw [h.load]
  dsimp only
  rw [h.save session]

/-- Removing leaves an empty slot, also where there is no file. -/
theorem Holds.remove (h : f.Holds server slot) (baseUrl : String) :
    (TokenSlot.remove (⟨f, baseUrl⟩ : ConfigSlot)).file.Holds server none := by
  rw [ConfigSlot.remove_eq]
  dsimp only
  by_cases hexists : f.exists? = true
  · rw [if_pos hexists, h.replace]
    exact h.saved none
  · rw [if_neg hexists]
    -- Without a file there is no session to remove.
    cases f with
    | nowhere => exact absurd rfl h.place
    | absent =>
      have hslot : slot = none := by
        cases h.load
        rfl
      exact hslot ▸ h
    | directory => exact absurd rfl hexists
    | file content => exact absurd rfl hexists

end ConfigFile

namespace SlotUse

variable {f : ConfigFile} {server : ServerSettings} {slot : Option SessionRecord}

/-- One use does to the file what it does to the slot. -/
theorem holds_file (u : SlotUse) (h : f.Holds server slot) :
    (u.file f).Holds server (u.act slot) := by
  obtain ⟨baseUrl, action⟩ := u
  cases action with
  | load => exact h
  | store token =>
    rw [file, act]
    dsimp only
    rw [ConfigSlot.store_eq, h.replace]
    exact h.saved _
  | remove => exact h.remove baseUrl

/-- One use loads from the file what it loads from the slot. -/
theorem loaded?_eq_answer? (u : SlotUse) (h : f.Holds server slot) :
    u.loaded? f = u.answer? slot := by
  obtain ⟨baseUrl, action⟩ := u
  cases action with
  | load =>
    show some (ConfigSlot.token? ⟨f, baseUrl⟩) = some (token? baseUrl slot)
    unfold ConfigSlot.token?
    dsimp only
    rw [h.load]
    dsimp only
    rw [filter_issuedBy_eq_token?]
  | store token => rfl
  | remove => rfl

theorem holds_fileAfter (uses : List SlotUse) (h : f.Holds server slot) :
    (fileAfter uses f).Holds server (slotAfter uses slot) := by
  induction uses generalizing f slot with
  | nil => exact h
  | cons u uses ih => exact ih (u.holds_file h)

theorem loads_eq_answers (uses : List SlotUse) (h : f.Holds server slot) :
    loads uses f = answers uses slot := by
  induction uses generalizing f slot with
  | nil => rfl
  | cons u uses ih => rw [loads, answers, u.loaded?_eq_answer? h, ih (u.holds_file h)]

/-! ## Files that cannot be loaded -/

variable {fault : ConfigFault}

theorem file_of_load_error (u : SlotUse) (h : f.load = .error fault) : u.file f = f := by
  obtain ⟨baseUrl, action⟩ := u
  cases action with
  | load => rfl
  | store token =>
    rw [file]
    dsimp only
    rw [ConfigSlot.store_eq, ConfigSlot.replace_eq_self h]
  | remove =>
    rw [file]
    dsimp only
    rw [ConfigSlot.remove_eq, ConfigSlot.replace_eq_self h, ite_self]

theorem fileAfter_of_load_error (uses : List SlotUse) (h : f.load = .error fault) :
    fileAfter uses f = f := by
  induction uses with
  | nil => rfl
  | cons u uses ih =>
    show fileAfter uses (u.file f) = f
    rw [u.file_of_load_error h, ih]

theorem loads_of_load_error (uses : List SlotUse) (h : f.load = .error fault) :
    ∀ token ∈ loads uses f, token = none := by
  induction uses with
  | nil => exact fun _ hmem => nomatch hmem
  | cons u uses ih =>
    intro token hmem
    rw [loads, u.file_of_load_error h, List.mem_append] at hmem
    rcases hmem with hmem | hmem
    · obtain ⟨baseUrl, action⟩ := u
      cases action with
      | load => exact (List.mem_singleton.1 hmem).trans (ConfigSlot.load_eq_none h)
      | store _ => cases hmem
      | remove => cases hmem
    · exact ih token hmem

/-- Without a file, removing does not bring one about. -/
theorem file_remove_absent (baseUrl : String) :
    (⟨baseUrl, .remove⟩ : SlotUse).file .absent = .absent := rfl

end SlotUse

/-! ## The refinement -/

/-- The slot of a configuration file is one slot with an owner, for any sequence of uses that are
each made through a service of their own.

As long as there is a directory and the file is missing or can be loaded, everything that is loaded
is what the slot with an owner holds for that service; at every point the file holds the settings
that it held at first, and the content of the slot.  What is loaded at any point through a base URL
is a token exactly if the slot holds it with an owner whose base URL is the same up to slashes at
its end.  Loading leaves the file as it is, and removing does not bring one about.

A file that is there and cannot be loaded stays as it is at every point, and nothing is loaded. -/
theorem config_slot_refines_owned_slot (f : ConfigFile) (uses : List SlotUse) :
    (∀ server slot, f.Holds server slot →
      SlotUse.loads uses f = SlotUse.answers uses slot ∧
      ∀ before, before <+: uses →
        (SlotUse.fileAfter before f).Holds server (SlotUse.slotAfter before slot) ∧
        ∀ baseUrl,
          (∀ token,
            TokenSlot.load (⟨SlotUse.fileAfter before f, baseUrl⟩ : ConfigSlot) = some token ↔
              ∃ own, SlotUse.slotAfter before slot = some ⟨token, some own⟩ ∧
                Endpoint.trimSlashes own = Endpoint.trimSlashes baseUrl) ∧
          (⟨baseUrl, .load⟩ : SlotUse).file (SlotUse.fileAfter before f) =
            SlotUse.fileAfter before f ∧
          (SlotUse.fileAfter before f = .absent →
            (⟨baseUrl, .remove⟩ : SlotUse).file (SlotUse.fileAfter before f) = .absent)) ∧
    (∀ fault, f.load = .error fault →
      (∀ token ∈ SlotUse.loads uses f, token = none) ∧
      ∀ before, before <+: uses → SlotUse.fileAfter before f = f) := by
  constructor
  · intro server slot h
    refine ⟨SlotUse.loads_eq_answers uses h, fun before _ => ?_⟩
    have hbefore := SlotUse.holds_fileAfter before h
    refine ⟨hbefore, fun baseUrl => ⟨fun token => ?_, rfl, fun habsent => ?_⟩⟩
    · have hload := SlotUse.loaded?_eq_answer? ⟨baseUrl, .load⟩ hbefore
      rw [Option.some.inj hload]
      exact SlotUse.token?_eq_some
    · rw [habsent]
      exact SlotUse.file_remove_absent baseUrl
  · intro fault h
    exact ⟨SlotUse.loads_of_load_error uses h,
      fun before _ => SlotUse.fileAfter_of_load_error before h⟩

/-- A token without an owner is not loaded, gives way to one of another service, and that one is
loaded for its own service only; a directory in place of the file stays one. -/
theorem config_slot_refines_owned_slot_ownerless :
    (ConfigFile.saved ⟨{}, some ⟨"old", none⟩⟩).Holds {} (some ⟨"old", none⟩) ∧
    SlotUse.loads
        [⟨"http://a", .load⟩, ⟨"http://a/", .store "new"⟩, ⟨"http://a", .load⟩, ⟨"http://b", .load⟩,
          ⟨"http://b", .remove⟩, ⟨"http://a", .load⟩]
        (ConfigFile.saved ⟨{}, some ⟨"old", none⟩⟩) =
      [none, some "new", none, none] ∧
    ConfigFile.directory.load = .error .unreadable ∧
    SlotUse.fileAfter [⟨"http://a", .store "new"⟩, ⟨"http://a", .remove⟩] .directory =
      .directory := by
  have hempty : ConfigFile.absent.Holds {} none := ⟨(nomatch ·), rfl⟩
  have hsaved := hempty.saved (some ⟨"old", none⟩)
  refine ⟨hsaved, ?_, rfl, ?_⟩
  · have hloads := ((config_slot_refines_owned_slot _ [⟨"http://a", .load⟩,
      ⟨"http://a/", .store "new"⟩, ⟨"http://a", .load⟩, ⟨"http://b", .load⟩, ⟨"http://b", .remove⟩,
      ⟨"http://a", .load⟩]).1 _ _ hsaved).1
    rw [hloads]
    decide
  · exact ((config_slot_refines_owned_slot .directory [⟨"http://a", .store "new"⟩,
      ⟨"http://a", .remove⟩]).2 .unreadable rfl).2 _ (List.prefix_refl _)

end AccountAdmin
