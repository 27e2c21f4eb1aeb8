import AccountAdmin.Account.Forms
import AccountAdmin.Account.UserRecord
import AccountAdmin.Proofs.Json.Fields

/-!
# The wire format of user records

A JSON value says a user record if it is an object or an array that has something for each of five
fields, in a loose sense: a field may be missing or null, and both mean no id, the empty text or
false.  `Json.Takes` is that sense, `UserRecord.SaidBy` says it of the five fields together, and
`UserRecord.WireForm` of whole values.  An array stands for the object that has its items under the
names of the fields, in their order; it may be too short for all of them but not too long.

A list of fields may have several under one key, and the last one counts; that none of them can be
of the wrong kind is asked of each field alone.  An object that was read has each key once, and then
there is no more to it than the five fields (`UserRecord.SaidBy.each`).

## How it is proved

`UserRecord.FieldStep` says once what a field does to a record, and `UserRecord.Changes` what some
fields do one after another; the decoder of objects follows it step by step.  Going on from a record
and not only from the one that stands for nobody is what the induction is about.  Arrays are reduced
to objects.

* `record_wire_format`: exactly the values of the format are decoded, each to the record that it
  says; fields that are null or unknown can be left out; and an object can be turned into an array.
-/

namespace AccountAdmin

/-! ## Values that may be left out -/

namespace Json

variable {α : Type} {encode : α → Json} {default : α}

/-- What a field comes to that may be left out: the default if it is not there or null, and
otherwise what is written there. -/
def Takes (encode : α → Json) (default : α) : Option Json → α → Prop
  | none, a => a = default
  | some v, a => (v = .null ∧ a = default) ∨ v = encode a

/-- What a field makes of a part of a record that is there already: without the field it stays. -/
def Moves (encode : α → Json) (default before : α) : Option Json → α → Prop
  | none, a => a = before
  | some v, a => Takes encode default (some v) a

theorem moves_default_iff {o : Option Json} {a : α} :
    Moves encode default default o a ↔ Takes encode default o a := by
  cases o <;> rfl

/-- First the field in front, then the others; of those with one key the last one counts. -/
theorem Moves.cons {name : String} {f : String × Json} {rest : List (String × Json)}
    {before next a : α} (hf : Moves encode default before (lastUnder? name [f]) next)
    (hrest : Moves encode default next (lastUnder? name rest) a) :
    Moves encode default before (lastUnder? name (f :: rest)) a := by
  have hcons : lastUnder? name (f :: rest) = (lastUnder? name rest).or (lastUnder? name [f]) := rfl
  rw [hcons]
  cases hlast : lastUnder? name rest with
  | none =>
    rw [hlast] at hrest
    obtain rfl : a = next := hrest
    exact hf
  | some v =>
    rw [hlast] at hrest
    exact hrest

/-- A field comes to one thing only, if it is decoded. -/
theorem Takes.unique {decode : Json → Except Mismatch α}
    (hdecode : ∀ {v : Json} {a : α}, decode v = .ok a ↔ Takes encode default (some v) a)
    {o : Option Json} {a b : α} (ha : Takes encode default o a) (hb : Takes encode default o b) :
    a = b := by
  cases o with
  | none => exact Eq.trans ha (Eq.symm hb)
  | some v => exact Except.ok.inj ((hdecode.2 ha).symm.trans (hdecode.2 hb))

/-- It makes no difference whether a field is missing or null. -/
theorem takes_getD_iff (hnull : ∀ a, encode a = .null → a = default) {o : Option Json} {a : α} :
    Takes encode default (some (o.getD .null)) a ↔ Takes encode default o a := by
  cases o with
  | some v => rfl
  | none =>
    constructor
    · rintro (⟨-, ha⟩ | ha)
      · exact ha
      · exact hnull a ha.symm
    · exact fun ha => .inl ⟨rfl, ha⟩

end Json

open Json (Takes Moves lastUnder?)

/-! ## Decoders of single fields -/

namespace Decode

theorem map_eq_ok_iff {α β : Type} {r : Except Mismatch α} {f : α → β} {b : β} :
    r.map f = .ok b ↔ ∃ a, r = .ok a ∧ f a = b := by
  cases r with
  | error e =>
    constructor
    · intro h
      cases h
    · rintro ⟨a, ha, -⟩
      cases ha
  | ok a =>
    constructor
    · intro h
      exact ⟨a, rfl, Except.ok.inj h⟩
    · rintro ⟨a', ha, rfl⟩
      obtain rfl := Except.ok.inj ha
      rfl

theorem nullable_of_ne_null {α : Type} (decode : Json → Except Mismatch α) {v : Json}
    (h : v ≠ .null) : nullable decode v = (decode v).map some := by
  cases v with
  | null => exact absurd rfl h
  | _ => rfl

variable {α : Type} {decode : Json → Except Mismatch α} {encode : α → Json}

theorem nullAs_eq_ok_iff (hdecode : ∀ {v : Json} {a : α}, decode v = .ok a ↔ v = encode a)
    (hnull : ∀ a, encode a ≠ .null) {default : α} {v : Json} {a : α} :
    nullAs default decode v = .ok a ↔ Takes encode default (some v) a := by
  by_cases hv : v = .null
  · subst hv
    constructor
    · intro h
      exact .inl ⟨rfl, (Except.ok.inj h).symm⟩
    · rintro (⟨-, rfl⟩ | ha)
      · rfl
      · exact absurd ha.symm (hnull a)
  · rw [nullAs, nullable_of_ne_null decode hv]
    constructor
    · intro h
      obtain ⟨o, ho, rfl⟩ := map_eq_ok_iff.1 h
      obtain ⟨b, hb, rfl⟩ := map_eq_ok_iff.1 ho
      exact .inr (hdecode.1 hb)
    · rintro (⟨hnone, -⟩ | ha)
      · exact absurd hnone hv
      · rw [hdecode.2 ha]
        rfl

theorem text_eq_ok_iff {v : Json} {s : String} : text v = .ok s ↔ v = .string s := by
  cases v <;> simp [text]

theorem flag_eq_ok_iff {v : Json} {b : Bool} : flag v = .ok b ↔ v = .bool b := by
  cases v <;> simp [flag]

theorem nullAs_text {v : Json} {s : String} :
    nullAs "" text v = .ok s ↔ Takes .string "" (some v) s :=
  nullAs_eq_ok_iff text_eq_ok_iff fun _ h => nomatch h

theorem nullAs_flag {v : Json} {b : Bool} :
    nullAs false flag v = .ok b ↔ Takes .bool false (some v) b :=
  nullAs_eq_ok_iff flag_eq_ok_iff fun _ h => nomatch h

end Decode

namespace UserId

theorem ofJson_eq_ok_iff {v : Json} {id : UserId} : ofJson v = .ok id ↔ v = id.toJson := by
  constructor
  · intro h
    cases v with
    | integer n =>
      rw [ofJson, ofInt?] at h
      by_cases hn : -0x8000000000000000 ≤ n ∧ n < 0x8000000000000000
      · rw [dif_pos hn] at h
        obtain rfl := Except.ok.inj h
        rfl
      · rw [dif_neg hn] at h
        cases h
    | _ => cases h
  · rintro rfl
    exact ofJson_toJson id

theorem nullable_ofJson {v : Json} {id : Option UserId} :
    Decode.nullable ofJson v = .ok id ↔ Takes toJson? none (some v) id := by
  by_cases hv : v = .null
  · subst hv
    constructor
    · intro h
      exact .inl ⟨rfl, (Except.ok.inj h).symm⟩
    · rintro (⟨-, rfl⟩ | hid)
      · rfl
      · cases id with
        | none => rfl
        | some id => cases hid
  · rw [Decode.nullable_of_ne_null ofJson hv, Decode.map_eq_ok_iff]
    constructor
    · rintro ⟨id, hid, rfl⟩
      exact .inr (ofJson_eq_ok_iff.1 hid)
    · rintro (⟨hnull, -⟩ | hid)
      · exact absurd hnull hv
      · cases id with
        | none => exact absurd hid hv
        | some id => exact ⟨id, ofJson_eq_ok_iff.2 hid, rfl⟩

theorem eq_none_of_toJson? {id : Option UserId} (h : toJson? id = .null) : id = none := by
  cases id with
  | none => rfl
  | some id => cases h

end UserId

namespace UserRecord

/-! ## The format -/

/-- The names of the fields, in the order of the declaration. -/
def fieldNames : List String := ["userId", "username", "displayName", "admin", "disabled"]

theorem mem_fieldNames_iff {key : String} : key ∈ fieldNames ↔ key = "userId" ∨
    key = "username" ∨ key = "displayName" ∨ key = "admin" ∨ key = "disabled" := by
  simp [fieldNames]

/-- The fields say the record: each of its five parts is what is under its name. -/
structure SaidBy (fields : List (String × Json)) (u : UserRecord) : Prop where
  id : Takes UserId.toJson? none (lastUnder? "userId" fields) u.id
  username : Takes .string "" (lastUnder? "username" fields) u.username
  displayName : Takes .string "" (lastUnder? "displayName" fields) u.displayName
  admin : Takes .bool false (lastUnder? "admin" fields) u.admin
  disabled : Takes .bool false (lastUnder? "disabled" fields) u.disabled

/-- The value is one of those that say the record: an object none of whose fields is of the wrong
kind, or an array that has no more items than there are fields. -/
inductive WireForm (u : UserRecord) : Json → Prop where
  | object {fields : List (String × Json)} (heach : ∀ f ∈ fields, ∃ w, SaidBy [f] w)
      (h : SaidBy fields u) : WireForm u (.object fields)
  | array {items : List Json} (hlength : items.length ≤ fieldNames.length)
      (h : SaidBy (fieldNames.zip items) u) : WireForm u (.array items)

/-- The array has under each name what the object has; a null at either place may be missing. -/
structure Corresponds (items : List Json) (fields : List (String × Json)) : Prop where
  length_le : items.length ≤ fieldNames.length
  under : ∀ name ∈ fieldNames, (lastUnder? name (fieldNames.zip items)).getD .null =
    (lastUnder? name fields).getD .null

theorem SaidBy.unique {fields : List (String × Json)} {u w : UserRecord} (hu : SaidBy fields u)
    (hw : SaidBy fields w) : u = w := by
  apply UserRecord.ext
  · exact hu.id.unique UserId.nullable_ofJson hw.id
  · exact hu.username.unique Decode.nullAs_text hw.username
  · exact hu.displayName.unique Decode.nullAs_text hw.displayName
  · exact hu.admin.unique Decode.nullAs_flag hw.admin
  · exact hu.disabled.unique Decode.nullAs_flag hw.disabled

/-- Fields that have the same under each name say the same, whether null or missing. -/
theorem SaidBy.congr {fs gs : List (String × Json)} {u : UserRecord}
    (h : ∀ name ∈ fieldNames,
      (lastUnder? name fs).getD .null = (lastUnder? name gs).getD .null) (hu : SaidBy fs u) :
    SaidBy gs u := by
  have hmove {α : Type} {encode : α → Json} {default : α} {name : String} {a : α}
      (hnull : ∀ a, encode a = .null → a = default) (hname : name ∈ fieldNames)
      (ha : Takes encode default (lastUnder? name fs) a) :
      Takes encode default (lastUnder? name gs) a := by
    rw [← Json.takes_getD_iff hnull] at ha ⊢
    rwa [← h name hname]
  exact ⟨hmove (fun _ => UserId.eq_none_of_toJson?) (by decide) hu.id,
    hmove (fun _ h => nomatch h) (by decide) hu.username,
    hmove (fun _ h => nomatch h) (by decide) hu.displayName,
    hmove (fun _ h => nomatch h) (by decide) hu.admin,
    hmove (fun _ h => nomatch h) (by decide) hu.disabled⟩

/-! ## What a field does -/

/-- What a field makes of a record. -/
inductive FieldStep (u : UserRecord) (key : String) (v : Json) : UserRecord → Prop where
  | id {id : Option UserId} (hkey : key = "userId") (h : Takes UserId.toJson? none (some v) id) :
      FieldStep u key v { u with id }
  | username {username : String} (hkey : key = "username")
      (h : Takes .string "" (some v) username) : FieldStep u key v { u with username }
  | displayName {displayName : String} (hkey : key = "displayName")
      (h : Takes .string "" (some v) displayName) : FieldStep u key v { u with displayName }
  | admin {admin : Bool} (hkey : key = "admin") (h : Takes .bool false (some v) admin) :
      FieldStep u key v { u with admin }
  | disabled {disabled : Bool} (hkey : key = "disabled")
      (h : Takes .bool false (some v) disabled) : FieldStep u key v { u with disabled }
  | other (hkey : key ∉ fieldNames) : FieldStep u key v u

theorem setField_eq_ok_iff {u w : UserRecord} {key : String} {v : Json} :
    u.setField key v = .ok w ↔ FieldStep u key v w := by
  constructor
  · intro h
    rw [setField] at h
    split at h
    · next hkey =>
      obtain ⟨id, hid, rfl⟩ := Decode.map_eq_ok_iff.1 h
      exact .id hkey (UserId.nullable_ofJson.1 hid)
    split at h
    · next hkey =>
      obtain ⟨s, hs, rfl⟩ := Decode.map_eq_ok_iff.1 h
      exact .username hkey (Decode.nullAs_text.1 hs)
    split at h
    · next hkey =>
      obtain ⟨s, hs, rfl⟩ := Decode.map_eq_ok_iff.1 h
      exact .displayName hkey (Decode.nullAs_text.1 hs)
    split at h
    · next hkey =>
      obtain ⟨b, hb, rfl⟩ := Decode.map_eq_ok_iff.1 h
      exact .admin hkey (Decode.nullAs_flag.1 hb)
    split at h
    · next hkey =>
      obtain ⟨b, hb, rfl⟩ := Decode.map_eq_ok_iff.1 h
      exact .disabled hkey (Decode.nullAs_flag.1 hb)
    · next h₁ h₂ h₃ h₄ h₅ =>
      obtain rfl := Except.ok.inj h
      exact .other (by simp [mem_fieldNames_iff, h₁, h₂, h₃, h₄, h₅])
  · intro h
    cases h with
    | id hkey h =>
      subst hkey
      exact Decode.map_eq_ok_iff.2 ⟨_, UserId.nullable_ofJson.2 h, rfl⟩
    | username hkey h =>
      subst hkey
      exact Decode.map_eq_ok_iff.2 ⟨_, Decode.nullAs_text.2 h, rfl⟩
    | displayName hkey h =>
      subst hkey
      exact Decode.map_eq_ok_iff.2 ⟨_, Decode.nullAs_text.2 h, rfl⟩
    | admin hkey h =>
      subst hkey
      exact Decode.map_eq_ok_iff.2 ⟨_, Decode.nullAs_flag.2 h, rfl⟩
    | disabled hkey h =>
      subst hkey
      exact Decode.map_eq_ok_iff.2 ⟨_, Decode.nullAs_flag.2 h, rfl⟩
    | other hkey =>
      simp only [mem_fieldNames_iff, not_or] at hkey
      obtain ⟨h₁, h₂, h₃, h₄, h₅⟩ := hkey
      rw [setField, if_neg h₁, if_neg h₂, if_neg h₃, if_neg h₄, if_neg h₅]

/-- Whether a field is of the right kind does not depend on the record. -/
theorem FieldStep.exists_other {u w : UserRecord} {key : String} {v : Json}
    (h : FieldStep u key v w) (u' : UserRecord) : ∃ w', FieldStep u' key v w' := by
  cases h with
  | id hkey h => exact ⟨_, .id hkey h⟩
  | username hkey h => exact ⟨_, .username hkey h⟩
  | displayName hkey h => exact ⟨_, .displayName hkey h⟩
  | admin hkey h => exact ⟨_, .admin hkey h⟩
  | disabled hkey h => exact ⟨_, .disabled hkey h⟩
  | other hkey => exact ⟨_, .other hkey⟩

/-- Fields take one record to another. -/
structure Changes (u : UserRecord) (fields : List (String × Json)) (w : UserRecord) : Prop where
  id : Moves UserId.toJson? none u.id (lastUnder? "userId" fields) w.id
  username : Moves .string "" u.username (lastUnder? "username" fields) w.username
  displayName : Moves .string "" u.displayName (lastUnder? "displayName" fields) w.displayName
  admin : Moves .bool false u.admin (lastUnder? "admin" fields) w.admin
  disabled : Moves .bool false u.disabled (lastUnder? "disabled" fields) w.disabled

theorem changes_nil (u : UserRecord) : Changes u [] u := ⟨rfl, rfl, rfl, rfl, rfl⟩

theorem Changes.cons {u next w : UserRecord} {f : String × Json} {rest : List (String × Json)}
    (hf : Changes u [f] next) (hrest : Changes next rest w) : Changes u (f :: rest) w :=
  ⟨hf.id.cons hrest.id, hf.username.cons hrest.username, hf.displayName.cons hrest.displayName,
    hf.admin.cons hrest.admin, hf.disabled.cons hrest.disabled⟩

theorem changes_guest_iff {fields : List (String × Json)} {u : UserRecord} :
    Changes guest fields u ↔ SaidBy fields u := by
  constructor
  · intro h
    exact ⟨Json.moves_default_iff.1 h.id, Json.moves_default_iff.1 h.username,
      Json.moves_default_iff.1 h.displayName, Json.moves_default_iff.1 h.admin,
      Json.moves_default_iff.1 h.disabled⟩
  · intro h
    exact ⟨Json.moves_default_iff.2 h.id, Json.moves_default_iff.2 h.username,
      Json.moves_default_iff.2 h.displayName, Json.moves_default_iff.2 h.admin,
      Json.moves_default_iff.2 h.disabled⟩

theorem FieldStep.changes {u w : UserRecord} {key : String} {v : Json} (h : FieldStep u key v w) :
    Changes u [(key, v)] w := by
  cases h with
  | id hkey h =>
    subst hkey
    exact ⟨h, rfl, rfl, rfl, rfl⟩
  | username hkey h =>
    subst hkey
    exact ⟨rfl, h, rfl, rfl, rfl⟩
  | displayName hkey h =>
    subst hkey
    exact ⟨rfl, rfl, h, rfl, rfl⟩
  | admin hkey h =>
    subst hkey
    exact ⟨rfl, rfl, rfl, h, rfl⟩
  | disabled hkey h =>
    subst hkey
    exact ⟨rfl, rfl, rfl, rfl, h⟩
  | other hkey =>
    have hnone (name : String) (hname : name ∈ fieldNames) : lastUnder? name [(key, v)] = none := by
      rw [Json.lastUnder?_singleton, if_neg]
      rintro rfl
      exact hkey hname
    constructor
    · rw [hnone "userId" (by decide)]
      rfl
    · rw [hnone "username" (by decide)]
      rfl
    · rw [hnone "displayName" (by decide)]
      rfl
    · rw [hnone "admin" (by decide)]
      rfl
    · rw [hnone "disabled" (by decide)]
      rfl

/-- A field that says a record by itself can be set in any record. -/
theorem SaidBy.exists_step {key : String} {v : Json} {x : UserRecord} (h : SaidBy [(key, v)] x)
    (u : UserRecord) : ∃ w, FieldStep u key v w := by
  by_cases hkey : key ∈ fieldNames
  · rcases mem_fieldNames_iff.1 hkey with rfl | rfl | rfl | rfl | rfl
    · exact ⟨_, .id rfl h.id⟩
    · exact ⟨_, .username rfl h.username⟩
    · exact ⟨_, .displayName rfl h.displayName⟩
    · exact ⟨_, .admin rfl h.admin⟩
    · exact ⟨_, .disabled rfl h.disabled⟩
  · exact ⟨u, .other hkey⟩

/-! ## Objects -/

/-- Fields that are accepted are each of the right kind, and together they change the record. -/
theorem changes_of_fields {fields : List (String × Json)} {u w : UserRecord}
    (h : Decode.fields setField u fields = .ok w) :
    (∀ f ∈ fields, ∃ x, SaidBy [f] x) ∧ Changes u fields w := by
  induction fields generalizing u with
  | nil =>
    obtain rfl := Except.ok.inj h
    exact ⟨fun f hf => absurd hf List.not_mem_nil, changes_nil u⟩
  | cons f rest ih =>
    rw [Decode.fields] at h
    cases hset : u.setField f.1 f.2 with
    | error e =>
      rw [hset] at h
      cases h
    | ok next =>
      rw [hset] at h
      obtain ⟨heach, hrest⟩ := ih h
      have hstep := setField_eq_ok_iff.1 hset
      obtain ⟨x, hx⟩ := hstep.exists_other guest
      exact ⟨List.forall_mem_cons.2 ⟨⟨x, changes_guest_iff.1 hx.changes⟩, heach⟩,
        hstep.changes.cons hrest⟩

/-- Fields each of which is of the right kind are accepted. -/
theorem exists_fields {fields : List (String × Json)} (h : ∀ f ∈ fields, ∃ x, SaidBy [f] x)
    (u : UserRecord) : ∃ w, Decode.fields setField u fields = .ok w := by
  induction fields generalizing u with
  | nil => exact ⟨u, rfl⟩
  | cons f rest ih =>
    obtain ⟨⟨x, hx⟩, hrest⟩ := List.forall_mem_cons.1 h
    obtain ⟨next, hnext⟩ := hx.exists_step u
    obtain ⟨w, hw⟩ := ih hrest next
    refine ⟨w, ?_⟩
    rw [Decode.fields, setField_eq_ok_iff.2 hnext]
    exact hw

theorem fields_eq_ok_iff {fields : List (String × Json)} {u : UserRecord} :
    Decode.fields setField guest fields = .ok u ↔
      (∀ f ∈ fields, ∃ x, SaidBy [f] x) ∧ SaidBy fields u := by
  constructor
  · intro h
    obtain ⟨heach, hchanges⟩ := changes_of_fields h
    exact ⟨heach, changes_guest_iff.1 hchanges⟩
  · rintro ⟨heach, hu⟩
    obtain ⟨w, hw⟩ := exists_fields heach guest
    obtain ⟨-, hchanges⟩ := changes_of_fields hw
    rw [hw, hu.unique (changes_guest_iff.1 hchanges)]

/-- Where each key is there once, fields that together say a record are each of the right kind. -/
theorem SaidBy.each {fields : List (String × Json)} (hkeys : Json.KeysOnce fields)
    {u : UserRecord} (h : SaidBy fields u) : ∀ f ∈ fields, ∃ w, SaidBy [f] w := by
  intro f hf
  have hlast := Json.lastUnder?_of_mem hkeys hf
  have halone {α : Type} {encode : α → Json} {default : α} {name : String} {a : α}
      (ha : Takes encode default (lastUnder? name fields) a) :
      Takes encode default (lastUnder? name [f]) (if f.1 = name then a else default) := by
    rw [Json.lastUnder?_singleton]
    by_cases hname : f.1 = name
    · subst hname
      rw [if_pos rfl, if_pos rfl, ← hlast]
      exact ha
    · rw [if_neg hname, if_neg hname]
      rfl
  exact ⟨⟨_, _, _, _, _⟩, ⟨halone h.id, halone h.username, halone h.displayName, halone h.admin,
    halone h.disabled⟩⟩

/-! ## Arrays -/

/-- An array is decoded as the object that has its items under the names of the fields. -/
theorem ofJson_array {items : List Json} (h : items.length ≤ fieldNames.length) :
    ofJson (.array items) = ofJson (.object (fieldNames.zip items)) := by
  have hsetters : setters = fieldNames.map fun key u v => setField u key v := rfl
  have hfields := Decode.positions_map setField fieldNames guest items
  rw [ofJson, ofJson, hsetters, hfields]
  cases Decode.fields setField guest (fieldNames.zip items) with
  | error e => rfl
  | ok u => exact if_pos (by rwa [List.length_map])

theorem length_le_of_ofJson_array {items : List Json} {u : UserRecord}
    (h : ofJson (.array items) = .ok u) : items.length ≤ fieldNames.length := by
  rw [ofJson] at h
  split at h
  · cases h
  split at h
  · next hlength => exact hlength
  · cases h

theorem keysOnce_fieldNames_zip (items : List Json) : Json.KeysOnce (fieldNames.zip items) :=
  Json.keysOnce_zip (by decide) items

/-- Exactly the values of the format are decoded. -/
theorem ofJson_eq_ok_iff {v : Json} {u : UserRecord} : ofJson v = .ok u ↔ WireForm u v := by
  constructor
  · intro h
    cases v with
    | object fields =>
      obtain ⟨heach, hu⟩ := fields_eq_ok_iff.1 h
      exact .object heach hu
    | array items =>
      have hlength := length_le_of_ofJson_array h
      rw [ofJson_array hlength] at h
      exact .array hlength (fields_eq_ok_iff.1 h).2
    | _ => cases h
  · intro h
    cases h with
    | object heach hu => exact fields_eq_ok_iff.2 ⟨heach, hu⟩
    | array hlength hu =>
      rw [ofJson_array hlength]
      exact fields_eq_ok_iff.2 ⟨hu.each (keysOnce_fieldNames_zip _), hu⟩

theorem ofJson_object_eq_ok_iff {fields : List (String × Json)} (hkeys : Json.KeysOnce fields)
    {u : UserRecord} : ofJson (.object fields) = .ok u ↔ SaidBy fields u := by
  constructor
  · exact fun h => (fields_eq_ok_iff.1 h).2
  · exact fun h => fields_eq_ok_iff.2 ⟨h.each hkeys, h⟩

/-! ## Fields that make no difference -/

/-- What is under the key in the record is what null makes of it. -/
structure Vacant (key : String) (u : UserRecord) : Prop where
  id : key = "userId" → u.id = none
  username : key = "username" → u.username = ""
  displayName : key = "displayName" → u.displayName = ""
  admin : key = "admin" → u.admin = false
  disabled : key = "disabled" → u.disabled = false

theorem vacant_guest (key : String) : Vacant key guest :=
  ⟨fun _ => rfl, fun _ => rfl, fun _ => rfl, fun _ => rfl, fun _ => rfl⟩

theorem Vacant.keep {key k : String} {v : Json} {u w : UserRecord} (h : Vacant key u)
    (hne : k ≠ key) (hstep : FieldStep u k v w) : Vacant key w := by
  have hother {name : String} {P : Prop} (hk : k = name) (hkey : key = name) : P :=
    absurd (hk.trans hkey.symm) hne
  cases hstep with
  | id hk => exact { h with id := hother hk }
  | username hk => exact { h with username := hother hk }
  | displayName hk => exact { h with displayName := hother hk }
  | admin hk => exact { h with admin := hother hk }
  | disabled hk => exact { h with disabled := hother hk }
  | other => exact h

theorem Vacant.setField_null {key : String} {u : UserRecord} (h : Vacant key u) :
    u.setField key .null = .ok u := by
  have hnull {α : Type} {encode : α → Json} {default a : α} (ha : a = default) :
      Takes encode default (some .null) a := .inl ⟨rfl, ha⟩
  rw [setField_eq_ok_iff]
  by_cases hkey : key ∈ fieldNames
  · rcases mem_fieldNames_iff.1 hkey with rfl | rfl | rfl | rfl | rfl
    · exact .id rfl (hnull (h.id rfl))
    · exact .username rfl (hnull (h.username rfl))
    · exact .displayName rfl (hnull (h.displayName rfl))
    · exact .admin rfl (hnull (h.admin rfl))
    · exact .disabled rfl (hnull (h.disabled rfl))
  · exact .other hkey

/-- Fields that are null or unknown can be left out of an object. -/
theorem ofJson_filter {fields : List (String × Json)} (hkeys : Json.KeysOnce fields)
    {p : String × Json → Bool}
    (hp : ∀ f ∈ fields, p f = false → f.1 ∉ fieldNames ∨ f.2 = .null) :
    ofJson (.object (fields.filter p)) = ofJson (.object fields) := by
  apply Decode.fields_filter Vacant
  · exact fun h hne hset => h.keep hne (setField_eq_ok_iff.1 hset)
  · exact hkeys
  · rintro ⟨key, v⟩ hf hpf u hu
    rcases hp _ hf hpf with hkey | rfl
    · exact setField_eq_ok_iff.2 (.other hkey)
    · exact hu.setField_null
  · exact fun f _ _ => vacant_guest f.1

/-- An object and the array that corresponds to it are decoded to the same record. -/
theorem ofJson_corresponds {items : List Json} {fields : List (String × Json)}
    (hkeys : Json.KeysOnce fields) (h : Corresponds items fields) {u : UserRecord} :
    ofJson (.array items) = .ok u ↔ ofJson (.object fields) = .ok u := by
  rw [ofJson_array h.length_le, ofJson_object_eq_ok_iff (keysOnce_fieldNames_zip items),
    ofJson_object_eq_ok_iff hkeys]
  constructor
  · exact fun hu => hu.congr h.under
  · exact fun hu => hu.congr fun name hname => (h.under name hname).symm

end UserRecord

/-- **The wire format.**  Exactly its values are decoded, each to the record that it says.  In an
object that has each key once, as all that are read have, fields that are null or unknown make no
difference at all, and with the array that has the same items in the order of the declaration the
same record is obtained. -/
theorem record_wire_format :
    (∀ v u, UserRecord.ofJson v = .ok u ↔ UserRecord.WireForm u v) ∧
      (∀ fields (p : String × Json → Bool), Json.KeysOnce fields →
        (∀ f ∈ fields, p f = false → f.1 ∉ UserRecord.fieldNames ∨ f.2 = .null) →
        UserRecord.ofJson (.object (fields.filter p)) = UserRecord.ofJson (.object fields)) ∧
      ∀ fields items, Json.KeysOnce fields → UserRecord.Corresponds items fields →
        ∀ u, UserRecord.ofJson (.array items) = .ok u ↔
          UserRecord.ofJson (.object fields) = .ok u := by
  refine ⟨fun v u => UserRecord.ofJson_eq_ok_iff, ?_, ?_⟩
  · intro fields p hkeys hp
    exact UserRecord.ofJson_filter hkeys hp
  · intro fields items hkeys h u
    exact UserRecord.ofJson_corresponds hkeys h

end AccountAdmin
