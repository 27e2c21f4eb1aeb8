import AccountAdmin.Proofs.Service.CallReader
import AccountAdmin.Proofs.Service.Triage
import Mathlib.Data.List.Forall2

/-!
# User records survive the wire

A record is written with every field, under the keys and in the order of its declaration.  On the
way back the text is read, which sorts the fields by their keys; the document is looked at for an
error that the service reports, which would stand among the fields under a key of its own; and the
fields are decoded one after the other, each replacing one of the record that stands for nobody.

So there are three steps, and each has its lemma: what the reader makes of the object of a record
(`UserRecord.canonical_toJson`), that no record looks like a reported error
(`UserRecord.reported?_toJson`), and that the decoder undoes the encoder
(`UserRecord.ofJson_canonical`).  None of them depends on how the text is laid out, and the first
two lift to lists (`Json.canonicalItems_eq_map`, `Decode.all_map`).

* `records_survive_wire`: a record, and a list of records, come back as they were sent.
-/

namespace AccountAdmin

/-! ## Objects and arrays -/

/-- A field with a smaller key than all others is put in front of them. -/
theorem Json.insertField_front {key k : String} (h : key < k) (value v : Json)
    (rest : List (String × Json)) :
    insertField key value ((k, v) :: rest) = (key, value) :: (k, v) :: rest := by
  rw [insertField, if_pos h]

/-- A field with a greater key than the first one is put behind it. -/
theorem Json.insertField_behind {key k : String} (h : ¬ key < k) (hne : key ≠ k) (value v : Json)
    (rest : List (String × Json)) :
    insertField key value ((k, v) :: rest) = (k, v) :: insertField key value rest := by
  rw [insertField, if_neg h, if_neg hne]

theorem Json.canonicalItems_eq_map (items : List Json) :
    canonicalItems items = items.map canonical := by
  induction items with
  | nil => rfl
  | cons v rest ih => rw [canonicalItems, ih, List.map_cons]

/-- If the decoder undoes the encoder, then it does so item by item, and no item is lost. -/
theorem Decode.all_map {α : Type} {decode : Json → Except Mismatch α} {encode : α → Json}
    (h : ∀ a, decode (encode a) = .ok a) (as : List α) : all decode (as.map encode) = .ok as := by
  induction as with
  | nil => rfl
  | cons a rest ih =>
    rw [List.map_cons, all, h a, ih]
    rfl

/-- A decoder takes a list exactly if it takes every item, and no item is lost or moved. -/
theorem Decode.all_eq_ok_iff {α : Type} {decode : Json → Except Mismatch α} {vs : List Json}
    {as : List α} : all decode vs = .ok as ↔ List.Forall₂ (fun v a => decode v = .ok a) vs as := by
  induction vs generalizing as with
  | nil =>
    rw [all, List.forall₂_nil_left_iff]
    exact ⟨fun h => (Except.ok.inj h).symm, fun h => h ▸ rfl⟩
  | cons v vs ih =>
    rw [all, List.forall₂_cons_left_iff]
    cases hv : decode v with
    | error e => simp
    | ok a =>
      dsimp only
      constructor
      · intro h
        cases hvs : all decode vs with
        | error e =>
          rw [hvs] at h
          cases h
        | ok rest =>
          rw [hvs] at h
          cases h
          exact ⟨a, rest, rfl, ih.1 hvs, rfl⟩
      · rintro ⟨_, rest, ⟨rfl⟩, hrest, rfl⟩
        rw [ih.2 hrest]
        rfl

/-- What a body is decoded to that says a value and reports no error. -/
theorem Payload.decode_of_document {α : Type} {decoder : Json → Except Mismatch α} {v : Json}
    {a : α} {bytes : ByteArray} (h : Json.BodyDocument v bytes) (hreported : v.reported? = none)
    (ha : decoder v.canonical = .ok a) : (ofBytes bytes).bind (decode decoder) = .ok a := by
  rw [ofBytes_of_document h, ofJson_canonical, hreported]
  exact congrArg liftMismatch ha

/-- The bytes of the compact text say the value. -/
theorem Json.bodyDocument_compact {v : Json} (h : Fits maxDepth v) :
    BodyDocument v v.compact.toUTF8 := ⟨v.compact, rfl, document_compact h⟩

/-! ## Records -/

namespace UserRecord

/-- A record as the reader of documents gives it: the fields in the order of their keys. -/
theorem canonical_toJson (u : UserRecord) :
    u.toJson.canonical = .object [("admin", .bool u.admin), ("disabled", .bool u.disabled),
      ("displayName", .string u.displayName), ("userId", UserId.toJson? u.id),
      ("username", .string u.username)] := by
  have husername : ¬ "username" < "userId" := by decide +kernel
  have hdisplayName : "displayName" < "userId" := by decide +kernel
  have hadmin : "admin" < "displayName" := by decide +kernel
  have hdisabled : ¬ "disabled" < "admin" := by decide +kernel
  have hdisabled' : "disabled" < "displayName" := by decide +kernel
  rw [toJson, ← UserId.toJson?, Json.canonical]
  simp only [Json.canonicalFields, Json.canonical_optionalId, Json.canonical, Json.sortFields,
    List.foldl_cons, List.foldl_nil, Json.insertField_nil]
  rw [Json.insertField_behind husername (by decide +kernel), Json.insertField_nil,
    Json.insertField_front hdisplayName, Json.insertField_front hadmin,
    Json.insertField_behind hdisabled (by decide +kernel), Json.insertField_front hdisabled']

/-- A list of records is an array of records. -/
theorem listOfJson_eq_ok_iff {v : Json} {us : List UserRecord} : listOfJson v = .ok us ↔
    ∃ items, v = .array items ∧ List.Forall₂ (fun item u => ofJson item = .ok u) items us := by
  cases v with
  | array items =>
    rw [listOfJson, Decode.items, Decode.all_eq_ok_iff]
    simp
  | _ => simp [listOfJson, Decode.items]

/-- What is decoded to a list of records is an array of records. -/
theorem decode_list_eq_ok_iff {r : Except Error Payload} {us : List UserRecord} :
    r.bind (Payload.decode listOfJson) = .ok us ↔
      ∃ items, r = .ok (.document (.array items)) ∧
        List.Forall₂ (fun item u => ofJson item = .ok u) items us := by
  cases r with
  | error e => simp [Except.bind]
  | ok p =>
    cases p with
    | empty => simp [Except.bind, Payload.decode]
    | document v =>
      have hlift : liftMismatch (listOfJson v) = .ok us ↔ listOfJson v = .ok us := by
        cases listOfJson v <;> simp [liftMismatch]
      refine hlift.trans (listOfJson_eq_ok_iff.trans ?_)
      simp

/-- A record never looks like an error. -/
theorem reported?_toJson (u : UserRecord) : u.toJson.reported? = none := rfl

/-- The id is there or is null, and either way it is read as it was written. -/
theorem setId_toJson? (w : UserRecord) (id : Option UserId) :
    w.setId (UserId.toJson? id) = .ok { w with id } := by
  cases id with
  | none => rfl
  | some id =>
    exact congrArg (fun r => (r.map some).map fun id => { w with id }) (UserId.ofJson_toJson id)

/-- The decoder undoes the encoder: it meets every field once and keeps what it finds there. -/
theorem ofJson_canonical (u : UserRecord) : ofJson u.toJson.canonical = .ok u := by
  have hadmin (w : UserRecord) (b : Bool) :
      w.setField "admin" (.bool b) = .ok { w with admin := b } := rfl
  have hdisabled (w : UserRecord) (b : Bool) :
      w.setField "disabled" (.bool b) = .ok { w with disabled := b } := rfl
  have hdisplayName (w : UserRecord) (s : String) :
      w.setField "displayName" (.string s) = .ok { w with displayName := s } := rfl
  have huserId (w : UserRecord) (id : Option UserId) :
      w.setField "userId" (UserId.toJson? id) = .ok { w with id } := w.setId_toJson? id
  have husername (w : UserRecord) (s : String) :
      w.setField "username" (.string s) = .ok { w with username := s } := rfl
  rw [canonical_toJson, ofJson]
  simp only [Decode.fields, hadmin, hdisabled, hdisplayName, huserId, husername]

/-- The text of a record has no limit to fear: it is one object without others inside. -/
theorem fits_toJson {depth : Nat} (u : UserRecord) : Json.Fits (depth + 1) u.toJson := by
  refine .object ?_
  simp only [List.forall_mem_cons]
  exact ⟨Json.fits_optionalId u.id, .string _, .string _, .bool _, .bool _, fun f hf => nomatch hf⟩

/-- Whatever text says a record is decoded to it. -/
theorem decode_of_document (u : UserRecord) {bytes : ByteArray}
    (h : Json.BodyDocument u.toJson bytes) :
    (Payload.ofBytes bytes).bind (Payload.decode ofJson) = .ok u :=
  Payload.decode_of_document h u.reported?_toJson u.ofJson_canonical

/-- Whatever text says a list of records is decoded to it. -/
theorem decode_list_of_document (us : List UserRecord) {bytes : ByteArray}
    (h : Json.BodyDocument (.array (us.map toJson)) bytes) :
    (Payload.ofBytes bytes).bind (Payload.decode listOfJson) = .ok us := by
  refine Payload.decode_of_document h rfl ?_
  rw [Json.canonical, Json.canonicalItems_eq_map, List.map_map]
  exact Decode.all_map ofJson_canonical us

end UserRecord

/-- **User records survive the wire.**  A record is written as JSON, and its text is read back as
the body of a reply: it does not count as an error of the service, and what is decoded from it is
the record.  The same holds for any list of records, with its order and its length. -/
theorem records_survive_wire (u : UserRecord) (us : List UserRecord) :
    (Payload.ofBytes u.toJson.compact.toUTF8).bind (Payload.decode UserRecord.ofJson) = .ok u ∧
      (Payload.ofBytes (Json.array (us.map UserRecord.toJson)).compact.toUTF8).bind
        (Payload.decode UserRecord.listOfJson) = .ok us := by
  refine ⟨u.decode_of_document (Json.bodyDocument_compact u.fits_toJson),
    UserRecord.decode_list_of_document us (Json.bodyDocument_compact (.array ?_))⟩
  rw [List.forall_mem_map]
  exact fun u _ => u.fits_toJson

end AccountAdmin
