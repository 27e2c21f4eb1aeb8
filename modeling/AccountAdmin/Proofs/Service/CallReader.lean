import AccountAdmin.Proofs.Account.UserIdText
import AccountAdmin.Proofs.Json.Printed
import AccountAdmin.Proofs.Service.Script

/-!
# Calls read back from their requests

Who receives a request has its method, its path and the text of its body.  `Call.read?` is what it
can make of them: it takes the path apart at its slashes, reads an id as an id and the body as JSON,
and looks up the arguments under their keys.  `requests_determine_calls` says that this gives back
the call with its arguments, so no two calls have the same request.

The reader knows nothing of how a request is written.  What is needed from the other side is that
the body is read back (`Json.read_compact`), that an id is (`UserId.parse_text`), and that neither
an id nor a word of a path has a slash in it (`Call.segments_id`).

* `Call.fields?`: the members of the object in the body of a call, in their order.
-/

namespace AccountAdmin

open Json (Fits canonical)

/-! ## Bodies -/

namespace Json

/-- The text that a value is. -/
def text? : Json → Option String
  | .string s => some s
  | _ => none

/-- The truth value that a value is. -/
def flag? : Json → Option Bool
  | .bool b => some b
  | _ => none

/-- The id that a value is. -/
def id? : Json → Option UserId
  | .integer n => UserId.ofInt? n
  | _ => none

/-- The id that a value is, or its absence. -/
def optionalId? : Json → Option (Option UserId)
  | .null => some none
  | v => v.id?.map some

/-- What is read of the value under a key. -/
def under {α : Type} (read : Json → Option α) (key : String) (v : Json) : Option α :=
  (v.field? key).bind read

section

variable {fields : List (String × Json)} {key : String}

/-- Under a key of an object that was read, there is what the text had under that key. -/
theorem under_canonical {α : Type} {read : Json → Option α} {v : Json} {a : α}
    (h : lastUnder? key fields = some v) (ha : read v.canonical = some a) :
    under read key (canonical (.object fields)) = some a := by
  rw [under, field?_canonical_object, h]
  exact ha

theorem under_text {s : String} (h : lastUnder? key fields = some (.string s)) :
    under text? key (canonical (.object fields)) = some s := under_canonical h rfl

theorem under_flag {b : Bool} (h : lastUnder? key fields = some (.bool b)) :
    under flag? key (canonical (.object fields)) = some b := under_canonical h rfl

theorem under_id {id : UserId} (h : lastUnder? key fields = some id.toJson) :
    under id? key (canonical (.object fields)) = some id :=
  under_canonical h (UserId.ofInt?_value id)

theorem under_optionalId {id : Option UserId}
    (h : lastUnder? key fields = some (UserId.toJson? id)) :
    under optionalId? key (canonical (.object fields)) = some id := by
  refine under_canonical h ?_
  cases id with
  | none => rfl
  | some id => exact congrArg (Option.map some) (UserId.ofInt?_value id)

end

theorem fits_id {depth : Nat} (id : UserId) : Fits depth id.toJson := by
  have hmax : id.value ≤ integerMax := by
    have hupper := id.upper
    rw [integerMax]
    omega
  exact .integer id.lower hmax

theorem fits_optionalId {depth : Nat} (id : Option UserId) : Fits depth (UserId.toJson? id) := by
  cases id with
  | none => exact .null
  | some id => exact fits_id id

theorem canonical_optionalId (id : Option UserId) :
    canonical (UserId.toJson? id) = UserId.toJson? id := by
  cases id <;> rfl

end Json

/-- The credentials in a body. -/
def Credentials.read? (v : Json) : Option Credentials := do
  let username ← v.under Json.text? "username"
  let password ← v.under Json.text? "password"
  return { username, password }

theorem Credentials.read?_toJson (f : Credentials) : read? f.toJson.canonical = some f := by
  rw [read?, toJson, Json.under_text rfl, Json.under_text rfl]
  rfl

/-- The change of a password in a body. -/
def PasswordChange.read? (v : Json) : Option PasswordChange := do
  let id ← v.under Json.optionalId? "userId"
  let oldPassword ← v.under Json.text? "oldPassword"
  let newPassword ← v.under Json.text? "newPassword"
  return { id, oldPassword, newPassword }

theorem PasswordChange.read?_toJson (f : PasswordChange) : read? f.toJson.canonical = some f := by
  rw [read?, toJson, Json.under_optionalId rfl, Json.under_text rfl, Json.under_text rfl]
  rfl

/-- The change of a profile in a body. -/
def ProfileUpdate.read? (v : Json) : Option ProfileUpdate := do
  let id ← v.under Json.optionalId? "userId"
  let displayName ← v.under Json.text? "displayName"
  return { id, displayName }

theorem ProfileUpdate.read?_toJson (f : ProfileUpdate) : read? f.toJson.canonical = some f := by
  rw [read?, toJson, Json.under_optionalId rfl, Json.under_text rfl]
  rfl

/-- The new user in a body. -/
def NewUser.read? (v : Json) : Option NewUser := do
  let username ← v.under Json.text? "username"
  let displayName ← v.under Json.text? "displayName"
  let admin ← v.under Json.flag? "admin"
  return { username, displayName, admin }

theorem NewUser.read?_toJson (f : NewUser) : read? f.toJson.canonical = some f := by
  rw [read?, toJson, Json.under_text rfl, Json.under_text rfl, Json.under_flag rfl]
  rfl

/-- The change of a status in a body. -/
def StatusUpdate.read? (v : Json) : Option StatusUpdate := do
  let id ← v.under Json.id? "userId"
  let disabled ← v.under Json.flag? "disabled"
  return { id, disabled }

theorem StatusUpdate.read?_toJson (f : StatusUpdate) : read? f.toJson.canonical = some f := by
  rw [read?, toJson, Json.under_id rfl, Json.under_flag rfl]
  rfl

namespace Call

/-- The members of the object in the body of a call, in their order. -/
def fields? : Call → Option (List (String × Json))
  | authenticate f => some [("username", .string f.username), ("password", .string f.password)]
  | create f =>
    some [("username", .string f.username), ("displayName", .string f.displayName),
      ("admin", .bool f.admin)]
  | changePassword f =>
    some [("userId", UserId.toJson? f.id), ("oldPassword", .string f.oldPassword),
      ("newPassword", .string f.newPassword)]
  | updateDetails f =>
    some [("userId", UserId.toJson? f.id), ("displayName", .string f.displayName)]
  | setStatus f => some [("userId", f.id.toJson), ("disabled", .bool f.disabled)]
  | current | get _ | list | resetPassword _ | delete _ => none

theorem body_eq (call : Call) : call.body = call.fields?.map .object := by
  cases call <;> rfl

/-- The body of a call is one object, whose members hold no other values. -/
theorem fits_fields {call : Call} {fields : List (String × Json)} (h : call.fields? = some fields) :
    Fits Json.maxDepth (.object fields) := by
  have hflat : ∀ f ∈ fields, Fits 126 f.2 := by
    cases call with
    | current | get | list | resetPassword | delete => cases h
    | authenticate f =>
      obtain rfl := Option.some.inj h
      simp only [List.forall_mem_cons]
      exact ⟨.string _, .string _, fun f hf => nomatch hf⟩
    | create f =>
      obtain rfl := Option.some.inj h
      simp only [List.forall_mem_cons]
      exact ⟨.string _, .string _, .bool _, fun f hf => nomatch hf⟩
    | changePassword f =>
      obtain rfl := Option.some.inj h
      simp only [List.forall_mem_cons]
      exact ⟨Json.fits_optionalId _, .string _, .string _, fun f hf => nomatch hf⟩
    | updateDetails f =>
      obtain rfl := Option.some.inj h
      simp only [List.forall_mem_cons]
      exact ⟨Json.fits_optionalId _, .string _, fun f hf => nomatch hf⟩
    | setStatus f =>
      obtain rfl := Option.some.inj h
      simp only [List.forall_mem_cons]
      exact ⟨Json.fits_id _, .bool _, fun f hf => nomatch hf⟩
  exact .object hflat

/-- The text of the body of a call, if it has one. -/
def bodyText (call : Call) : Option String := call.body.map Json.compact

theorem bodyText_eq (call : Call) :
    call.bodyText = call.fields?.map fun fields => Json.compact (.object fields) := by
  rw [bodyText, body_eq, Option.map_map]
  rfl

/-! ## Paths -/

/-- The words of a path. -/
def segments (path : String) : List String := (path.toList.splitOn '/').map String.ofList

theorem segments_eq {path : String} {words : List String} (hne : words ≠ [])
    (hwords : ∀ w ∈ words, '/' ∉ w.toList)
    (hpath : path.toList = ['/'].intercalate (words.map String.toList)) :
    segments path = words := by
  have hsplit : path.toList.splitOn '/' = words.map String.toList := by
    rw [hpath]
    refine List.splitOn_intercalate '/' (fun l hl => ?_) (by simpa using hne)
    obtain ⟨w, hw, rfl⟩ := List.mem_map.1 hl
    exact hwords w hw
  rw [segments, hsplit, List.map_map]
  simp

theorem slash_notMem_text (id : UserId) : '/' ∉ id.text.toList := id.notMem_text (by decide) rfl

theorem segments_id (id : UserId) : segments ("/user/" ++ id.text) = ["", "user", id.text] := by
  refine segments_eq (List.cons_ne_nil _ _) ?_ (by simp [List.intercalate])
  simp only [List.forall_mem_cons]
  exact ⟨by decide, by decide, slash_notMem_text id, fun w hw => nomatch hw⟩

theorem segments_resetPassword (id : UserId) :
    segments ("/user/" ++ id.text ++ "/reset-password") =
      ["", "user", id.text, "reset-password"] := by
  refine segments_eq (List.cons_ne_nil _ _) ?_ (by simp [List.intercalate])
  simp only [List.forall_mem_cons]
  exact ⟨by decide, by decide, slash_notMem_text id, by decide, fun w hw => nomatch hw⟩

/-! ## Requests -/

/-- The id that a word of a path is. -/
def idOfWord? (word : String) : Option UserId := (UserId.parse word).toOption

theorem idOfWord?_text (id : UserId) : idOfWord? id.text = some id := by
  rw [idOfWord?, UserId.parse_text]
  rfl

/-- The call that a request without a body is. -/
def readPath? (method : Method) (words : List String) : Option Call :=
  match method, words with
  | .get, ["", "user"] => some current
  | .get, ["", "user", word] => if word = "list" then some list else (idOfWord? word).map get
  | .delete, ["", "user", word] => (idOfWord? word).map delete
  | .post, ["", "user", word, "reset-password"] => (idOfWord? word).map resetPassword
  | _, _ => none

/-- The call that a request with a body is. -/
def readBody? (method : Method) (words : List String) (v : Json) : Option Call :=
  match method, words with
  | .post, ["", "authenticate"] => (Credentials.read? v).map authenticate
  | .post, ["", "user", "create"] => (NewUser.read? v).map create
  | .post, ["", "user", "change-password"] => (PasswordChange.read? v).map changePassword
  | .patch, ["", "user", "details"] => (ProfileUpdate.read? v).map updateDetails
  | .patch, ["", "user", "status"] => (StatusUpdate.read? v).map setStatus
  | _, _ => none

/-- The call that a request is. -/
def read? (method : Method) (path : String) (body : Option String) : Option Call :=
  match body with
  | none => readPath? method (segments path)
  | some text => (Json.read text).bind (readBody? method (segments path))

theorem readPath?_eq {call : Call} (h : call.fields? = none) :
    readPath? call.method (segments call.path) = some call := by
  cases call with
  | authenticate | create | changePassword | updateDetails | setStatus => cases h
  | current => rfl
  | list => rfl
  | get id =>
    rw [path, segments_id]
    refine (if_neg id.text_ne_list).trans ?_
    rw [idOfWord?_text, Option.map_some]
  | delete id =>
    rw [path, segments_id]
    exact congrArg (Option.map delete) (idOfWord?_text id)
  | resetPassword id =>
    rw [path, segments_resetPassword]
    exact congrArg (Option.map resetPassword) (idOfWord?_text id)

theorem readBody?_eq {call : Call} {fields : List (String × Json)}
    (h : call.fields? = some fields) :
    readBody? call.method (segments call.path) (canonical (.object fields)) = some call := by
  cases call with
  | current | get | list | resetPassword | delete => cases h
  | authenticate f =>
    obtain rfl := Option.some.inj h
    have hwords : segments "/authenticate" = ["", "authenticate"] := by decide
    rw [path, hwords]
    exact congrArg (Option.map authenticate) f.read?_toJson
  | create f =>
    obtain rfl := Option.some.inj h
    have hwords : segments "/user/create" = ["", "user", "create"] := by decide
    rw [path, hwords]
    exact congrArg (Option.map create) f.read?_toJson
  | changePassword f =>
    obtain rfl := Option.some.inj h
    have hwords : segments "/user/change-password" = ["", "user", "change-password"] := by decide
    rw [path, hwords]
    exact congrArg (Option.map changePassword) f.read?_toJson
  | updateDetails f =>
    obtain rfl := Option.some.inj h
    have hwords : segments "/user/details" = ["", "user", "details"] := by decide
    rw [path, hwords]
    exact congrArg (Option.map updateDetails) f.read?_toJson
  | setStatus f =>
    obtain rfl := Option.some.inj h
    have hwords : segments "/user/status" = ["", "user", "status"] := by decide
    rw [path, hwords]
    exact congrArg (Option.map setStatus) f.read?_toJson

/-- A call is read back from its request. -/
theorem read?_request (call : Call) : read? call.method call.path call.bodyText = some call := by
  rw [bodyText_eq]
  cases h : call.fields? with
  | none => exact readPath?_eq h
  | some fields =>
    rw [Option.map_some, read?, Json.read_compact (fits_fields h)]
    exact readBody?_eq h

end Call

/-- The request that a call sends, if one is sent, has the method, the path and the body text of the
call. -/
theorem Client.sent_perform {σ : Type} [TokenSlot σ] (c : Client σ) (call : Call) :
    ∃ rs, (c.perform call).2.wire.sent = c.wire.sent ++ rs ∧ rs.length ≤ 1 ∧
      ∀ r ∈ rs, r.method = call.method ∧ r.GoesTo c.endpoint call.path ∧
        r.body = call.bodyText := by
  rcases c.perform_cases call with ⟨e, h, -⟩ | ⟨url, d, wire, hurl, htakes, h⟩
  · rw [h]
    exact ⟨[], (List.append_nil _).symm, Nat.zero_le 1, fun r hr => nomatch hr⟩
  · have hcarries := c.carries_prepare hurl d
    rw [h]
    refine ⟨[_], htakes.sent, Nat.le_refl 1, fun r hr => ?_⟩
    obtain rfl := List.mem_singleton.1 hr
    exact ⟨hcarries.method_eq, hcarries.goesTo, hcarries.body_eq⟩

/-- **The requests determine the calls.**  A call sends at most one request, with its method, its
path and the text of its body.  From these three the call is read back with all its arguments, so no
other call has the same three.  The body of a call that has one is the compact text of one object,
and as a document it says the members of that call in their order and nothing else; other calls have
none. -/
theorem requests_determine_calls {σ : Type} [TokenSlot σ] (c : Client σ) (call : Call) :
    (∃ rs, (c.perform call).2.wire.sent = c.wire.sent ++ rs ∧ rs.length ≤ 1 ∧
      ∀ r ∈ rs, r.method = call.method ∧ r.GoesTo c.endpoint call.path ∧
        r.body = call.bodyText) ∧
    Call.read? call.method call.path call.bodyText = some call ∧
    (call.fields? = none → call.bodyText = none) ∧
    (∀ fields, call.fields? = some fields →
      call.bodyText = some (Json.compact (.object fields)) ∧
      Json.Document (.object fields) (Json.compact (.object fields)).toList) ∧
    ∀ other : Call, other.method = call.method → other.path = call.path →
      other.bodyText = call.bodyText → other = call := by
  refine ⟨c.sent_perform call, call.read?_request, fun h => ?_, fun fields h => ⟨?_, ?_⟩,
    fun other hmethod hpath hbody => ?_⟩
  · rw [Call.bodyText_eq, h, Option.map_none]
  · rw [Call.bodyText_eq, h, Option.map_some]
  · exact Json.document_compact (Call.fits_fields h)
  · have hother := other.read?_request
    rw [hmethod, hpath, hbody, call.read?_request] at hother
    exact (Option.some.inj hother).symm

/-- A password that looks like JSON is sent as a text and read back as one. -/
example :
    let credentials : Credentials := ⟨"bob", "\",\"admin\":true"⟩
    Call.bodyText (.authenticate credentials) =
      some "\x7b\"username\":\"bob\",\"password\":\"\\\",\\\"admin\\\":true\"\x7d" := by
  cbv

end AccountAdmin
