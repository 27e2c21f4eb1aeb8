import AccountAdmin.Console
import AccountAdmin.Proofs.Account.RecordFormat
import AccountAdmin.Proofs.Service.RecordWire

/-!
# Null in place of a missing field

The service leaves fields out of the answer to credentials or sets them to null as it likes, both in
the answer and in the record of the user inside of it.  `SignIn.withoutNulls` takes such nulls away;
two answers that come to the same without them are decoded to the same, and the login that gets one
of them goes as the login that gets the other.

The user is all that may be null in the answer itself.  The flag may be left out, but if it is null
the whole answer is refused, and the user cannot sign in.

## How it is proved

The decoder goes through the fields of an object one after another, so that everything follows from
what single fields do: a user that is null updates nothing, since no other field is about the user,
and the record of any other user is decoded as it is without nulls.

A login has one exchange, and its reply is the first of the script.  Either the reply is never
received, whatever it is, or the exchange is the same up to the body of the reply
(`Client.perform_expecting_cases`).

* `login_tolerates_null`: nulls make no difference, apart from the flag, of which null is refused.
* `null_flag_refused`: the same answer is accepted without the flag.
-/

namespace AccountAdmin

/-! ## Nulls -/

namespace Json

/-- Whether a value is null. -/
def isNull : Json → Bool
  | .null => true
  | _ => false

theorem isNull_iff {v : Json} : v.isNull = true ↔ v = .null := by
  cases v <;> simp [isNull]

/-- The fields that are not null. -/
def present (fields : List (String × Json)) : List (String × Json) :=
  fields.filter fun f => !f.2.isNull

theorem mem_of_lookup? {key : String} {v : Json} {fields : List (String × Json)}
    (h : lookup? key fields = some v) : (key, v) ∈ fields := by
  induction fields with
  | nil => cases h
  | cons f rest ih =>
    obtain ⟨k, w⟩ := f
    rw [lookup?] at h
    split at h
    · next hk =>
      obtain rfl := Option.some.inj h
      exact hk ▸ List.mem_cons_self
    · exact List.mem_cons_of_mem _ (ih h)

end Json

/-! ## Records without nulls -/

namespace UserRecord

/-- What a record is written as, without the fields that are null.  Items of an array are fields
too. -/
def withoutNulls : Json → Json
  | .object fields => .object (Json.present fields)
  | .array items =>
    if items.length ≤ fieldNames.length then .object (Json.present (fieldNames.zip items))
    else .array items
  | v => v

theorem ofJson_present {fields : List (String × Json)} (hkeys : Json.KeysOnce fields) :
    ofJson (.object (Json.present fields)) = ofJson (.object fields) := by
  apply ofJson_filter hkeys
  intro f _ hf
  rw [Bool.not_eq_false', Json.isNull_iff] at hf
  exact .inr hf

theorem ofJson_withoutNulls (v : Json) :
    ofJson (withoutNulls v.canonical) = ofJson v.canonical := by
  cases hv : v.canonical with
  | object fields => exact ofJson_present (Json.canonical_eq_object hv).1
  | array items =>
    rw [withoutNulls]
    split
    · next hlength => rw [ofJson_present (keysOnce_fieldNames_zip items), ofJson_array hlength]
    · rfl
  | _ => rfl

theorem withoutNulls_ne_null {v : Json} (h : v ≠ .null) : withoutNulls v ≠ .null := by
  cases v with
  | null => exact h
  | array items =>
    rw [withoutNulls]
    split <;> exact Json.noConfusion
  | _ => exact Json.noConfusion

end UserRecord

/-! ## Answers without nulls -/

namespace SignIn

/-- Whether a field is anything else than a user that is null. -/
def stays (f : String × Json) : Bool := !(f.1 == "user" && f.2.isNull)

/-- The field with no nulls in the record of the user, if it has one. -/
def easeUser (f : String × Json) : String × Json :=
  if f.1 = "user" then (f.1, UserRecord.withoutNulls f.2) else f

/-- What an answer is written as, without the nulls that count as missing: the user, and the fields
of the record of the user. -/
def withoutNulls : Json → Json
  | .object fields => .object ((fields.filter stays).map easeUser)
  | v => v

theorem stays_eq_false_iff {f : String × Json} :
    stays f = false ↔ f.1 = "user" ∧ f.2 = .null := by
  rw [stays, Bool.not_eq_false', Bool.and_eq_true, beq_iff_eq, Json.isNull_iff]

/-- Under other keys than that of the user everything stays. -/
theorem lookup?_withoutNulls {key : String} (hkey : key ≠ "user") (fields : List (String × Json)) :
    Json.lookup? key ((fields.filter stays).map easeUser) = Json.lookup? key fields := by
  induction fields with
  | nil => rfl
  | cons f rest ih =>
    obtain ⟨k, v⟩ := f
    by_cases hk : k = "user"
    · -- whether it stays or not, it is not what is looked for
      subst hk
      rw [Json.lookup?, if_neg hkey.symm, ← ih, List.filter_cons]
      split
      · rw [List.map_cons, easeUser, if_pos rfl, Json.lookup?, if_neg hkey.symm]
      · rfl
    · have hstays : stays (k, v) = true := by
        rw [← Bool.not_eq_false, stays_eq_false_iff]
        exact fun h => hk h.1
      rw [List.filter_cons_of_pos hstays, List.map_cons, easeUser, if_neg hk, Json.lookup?,
        Json.lookup?, ih]

theorem field?_withoutNulls {key : String} (hkey : key ≠ "user") (v : Json) :
    (withoutNulls v).field? key = v.field? key := by
  cases v with
  | object fields => exact lookup?_withoutNulls hkey fields
  | _ => rfl

/-! ### Decoding -/

namespace Found

theorem user_of_setField {f g : Found} {key : String} {v : Json} (hkey : key ≠ "user")
    (h : f.setField key v = .ok g) : g.user = f.user := by
  rw [setField, if_neg hkey] at h
  split at h
  · obtain ⟨token, -, rfl⟩ := Decode.map_eq_ok_iff.1 h
    rfl
  split at h
  · obtain ⟨flag, -, rfl⟩ := Decode.map_eq_ok_iff.1 h
    rfl
  · obtain rfl := Except.ok.inj h
    rfl

theorem setField_of_stays_eq_false {f : Found} (hf : f.user = .guest) {field : String × Json}
    (h : stays field = false) : f.setField field.1 field.2 = .ok f := by
  obtain ⟨hkey, hnull⟩ := stays_eq_false_iff.1 h
  have hsame : { f with user := .guest } = f := by rw [← hf]
  rw [hkey, hnull]
  exact congrArg Except.ok hsame

theorem setUser_withoutNulls (f : Found) (v : Json) :
    f.setUser (UserRecord.withoutNulls v.canonical) = f.setUser v.canonical := by
  by_cases hv : v.canonical = .null
  · rw [hv]
    rfl
  · rw [setUser, setUser, Decode.nullAs, Decode.nullAs,
      Decode.nullable_of_ne_null _ (UserRecord.withoutNulls_ne_null hv),
      Decode.nullable_of_ne_null _ hv, UserRecord.ofJson_withoutNulls]

theorem setField_easeUser (f : Found) {field : String × Json}
    (h : ∃ v, field.2 = Json.canonical v) :
    f.setField (easeUser field).1 (easeUser field).2 = f.setField field.1 field.2 := by
  obtain ⟨key, w⟩ := field
  obtain ⟨v, rfl⟩ := h
  by_cases hkey : key = "user"
  · subst hkey
    exact f.setUser_withoutNulls v
  · rw [easeUser, if_neg hkey]

end Found

/-- An answer is decoded as it is without nulls. -/
theorem ofJson_withoutNulls (v : Json) :
    ofJson (withoutNulls v.canonical) = ofJson v.canonical := by
  cases hv : v.canonical with
  | object fields =>
    obtain ⟨hkeys, hvalues⟩ := Json.canonical_eq_object hv
    have hmap : Decode.fields Found.setField {} ((fields.filter stays).map easeUser) =
        Decode.fields Found.setField {} (fields.filter stays) := by
      apply Decode.fields_map
      exact fun f hf a => a.setField_easeUser (hvalues f (List.mem_filter.1 hf).1)
    have hfilter : Decode.fields Found.setField {} (fields.filter stays) =
        Decode.fields Found.setField {} fields := by
      apply Decode.fields_filter fun key f => key = "user" → f.user = .guest
      · exact fun hvacant hne hset hkey =>
          (Found.user_of_setField (hkey ▸ hne) hset).trans (hvacant hkey)
      · exact hkeys
      · exact fun f _ hf a hvacant =>
          Found.setField_of_stays_eq_false (hvacant (stays_eq_false_iff.1 hf).1) hf
      · exact fun _ _ _ _ => rfl
    rw [withoutNulls, ofJson, ofJson, hmap, hfilter]
  | _ => rfl

/-- The flag must not be null. -/
theorem ofJson_null_flag {v : Json} (h : v.field? "mustChangePassword" = some .null) :
    ∃ e, ofJson v = .error e := by
  cases v with
  | object fields =>
    have hmem : ("mustChangePassword", Json.null) ∈ fields := Json.mem_of_lookup? h
    have hrefused (f : Found) : ∃ e, f.setField "mustChangePassword" .null = .error e := ⟨_, rfl⟩
    obtain ⟨e, he⟩ := Decode.exists_error_of_mem hmem hrefused {}
    refine ⟨e, ?_⟩
    rw [ofJson, he]
  | _ => cases h

end SignIn

/-! ## Bodies -/

/-- Documents that come to the same without nulls are the same answer or report the same error. -/
theorem Payload.decode_signIn_of_withoutNulls {v₁ v₂ : Json} {bytes₁ bytes₂ : ByteArray}
    (h₁ : Json.ofBytes bytes₁ = some v₁) (h₂ : Json.ofBytes bytes₂ = some v₂)
    (h : SignIn.withoutNulls v₁ = SignIn.withoutNulls v₂)
    (hanswer : SignIn.ofJson v₁ = SignIn.ofJson v₂) :
    (ofBytes bytes₁).bind (decode SignIn.ofJson) =
      (ofBytes bytes₂).bind (decode SignIn.ofJson) := by
  have herror : v₁.field? "error" = v₂.field? "error" := by
    rw [← SignIn.field?_withoutNulls (by decide) v₁, h, SignIn.field?_withoutNulls (by decide) v₂]
  rw [ofBytes, ofBytes, h₁, h₂]
  dsimp only
  rw [ofJson, ofJson, herror]
  cases v₂.field? "error" with
  | some e => rfl
  | none => exact congrArg liftMismatch hanswer

theorem Payload.decode_signIn_of_refused {v : Json} {bytes : ByteArray}
    (h : Json.ofBytes bytes = some v) (hrefused : ∃ e, SignIn.ofJson v = .error e) :
    ∃ e, (ofBytes bytes).bind (decode SignIn.ofJson) = .error e := by
  obtain ⟨m, hm⟩ := hrefused
  rw [ofBytes, h]
  dsimp only
  rw [ofJson]
  cases v.field? "error" with
  | some e => exact ⟨_, rfl⟩
  | none => exact ⟨_, congrArg liftMismatch hm⟩

/-! ## Exchanges -/

namespace Exchange

/-- A sign-in fails whatever the body of the reply, or it is what the body is decoded to. -/
theorem signIn_cases (request : Request) (status : Nat) (credentials : Credentials) :
    (∃ e, ∀ bytes, answer ⟨request, .answered ⟨status, some bytes⟩⟩ (.authenticate credentials) =
        .error e) ∨
      ∀ bytes, answer ⟨request, .answered ⟨status, some bytes⟩⟩ (.authenticate credentials) =
        (Payload.ofBytes bytes).bind (Payload.decode SignIn.ofJson) := by
  by_cases hrefused : status = 401 ∧ request.authorization.isSome = true
  · refine .inl ⟨.sessionExpired, fun bytes => ?_⟩
    rw [answer, payload_of_refused rfl hrefused.1 hrefused.2]
  by_cases h204 : status = 204
  · refine .inl ⟨.parse "expected a response body, got none", fun bytes => ?_⟩
    rw [answer, payload_of_empty rfl h204]
    rfl
  · refine .inr fun bytes => ?_
    rw [answer, payload_of_speaksByBody rfl ⟨hrefused, h204⟩]
    dsimp only
    cases Payload.ofBytes bytes <;> rfl

end Exchange

/-! ## Logins -/

section

variable {σ : Type}

/-- The client, and a peer that gives these replies from now on. -/
def Client.expecting (c : Client σ) (replies : List Delivery) : Client σ :=
  { c with wire := { c.wire with peer := .scripted replies } }

/-- The console, and a peer that gives these replies from now on. -/
def Console.expecting (c : Console σ) (replies : List Delivery) : Console σ :=
  { c with client := c.client.expecting replies }

/-- Outcomes that are the same for the operator and leave the same session behind. -/
structure Outcome.Alike {α : Type} (o₁ o₂ : Outcome σ α) : Prop where
  result : o₁.result = o₂.result
  events : o₁.events = o₂.events
  user : o₁.console.user = o₂.console.user
  session : o₁.console.client.session = o₂.console.client.session

theorem Outcome.alike_refl {α : Type} (o : Outcome σ α) : o.Alike o := ⟨rfl, rfl, rfl, rfl⟩

variable [TokenSlot σ]

/-- A call fails before a reply is there, or it is one exchange, with the reply that is the first
one to come. -/
theorem Client.perform_expecting_cases (c : Client σ) (call : Call) (later : List Delivery) :
    (∃ e, ∀ r, (c.expecting (.answered r :: later)).perform call =
        (.error e, c.expecting (.answered r :: later))) ∨
      ∃ request wire, ∀ r, (c.expecting (.answered r :: later)).perform call =
        (Exchange.answer ⟨request, .answered r⟩ call, c.after ⟨request, .answered r⟩ wire) := by
  have hendpoint (r : Reply) : (c.expecting (.answered r :: later)).endpoint = c.endpoint := rfl
  cases hurl : c.endpoint.resolve call.path with
  | error fault =>
    refine .inl ⟨.url fault, fun r => ?_⟩
    rw [perform, request, hendpoint, hurl]
  | ok url =>
    let sent := c.prepare call.method url call.body
    by_cases hsendable : sent.isSendable = true
    · let wire : Wire := ⟨.scripted later, c.wire.sent ++ [sent]⟩
      refine .inr ⟨sent, wire, fun r => ?_⟩
      have hsubmit : (c.expecting (.answered r :: later)).wire.submit sent = (.answered r, wire) :=
        if_pos hsendable
      have hsend : (c.expecting (.answered r :: later)).send call.method url call.body =
          (Exchange.payload ⟨sent, .answered r⟩, c.after ⟨sent, .answered r⟩ wire) :=
        send_eq_payload hsubmit
      rw [perform, request, hendpoint, hurl]
      dsimp only
      rw [hsend, Exchange.answer]
      cases Exchange.payload ⟨sent, .answered r⟩ <;> rfl
    · refine .inl ⟨.network, fun r => ?_⟩
      have hsubmit : (c.expecting (.answered r :: later)).wire.submit sent =
          (.dropped, (c.expecting (.answered r :: later)).wire) := if_neg hsendable
      have hsend : (c.expecting (.answered r :: later)).send call.method url call.body =
          (.error .network, c.expecting (.answered r :: later)) := send_eq_payload hsubmit
      rw [perform, request, hendpoint, hurl]
      dsimp only
      rw [hsend]

namespace Console

variable {c : Console σ} {credentials : Credentials}

theorem login_expecting_of_error {replies : List Delivery} {client : Client σ} {e : Error}
    (keep : Bool) (h : (c.client.expecting replies).perform (.authenticate credentials) =
      (.error e, client)) :
    (c.expecting replies).login credentials keep =
      ⟨.error e, [.reportError e], ⟨client, c.user⟩⟩ := by
  rw [login, perform, expecting, h]
  rfl

theorem login_expecting_congr {replies₁ replies₂ : List Delivery} (keep : Bool)
    (h : (c.client.expecting replies₁).perform (.authenticate credentials) =
      (c.client.expecting replies₂).perform (.authenticate credentials)) :
    (c.expecting replies₁).login credentials keep =
      (c.expecting replies₂).login credentials keep := by
  rw [login, login, perform, perform, expecting, expecting, h]

/-- Logins with replies that are decoded to the same. -/
theorem login_alike (c : Console σ) (status : Nat) {bytes₁ bytes₂ : ByteArray}
    (h : (Payload.ofBytes bytes₁).bind (Payload.decode SignIn.ofJson) =
      (Payload.ofBytes bytes₂).bind (Payload.decode SignIn.ofJson))
    (later : List Delivery) (credentials : Credentials) (keep : Bool) :
    ((c.expecting (.answered ⟨status, some bytes₁⟩ :: later)).login credentials keep).Alike
      ((c.expecting (.answered ⟨status, some bytes₂⟩ :: later)).login credentials keep) := by
  rcases c.client.perform_expecting_cases (.authenticate credentials) later with
    ⟨e, hperform⟩ | ⟨request, wire, hperform⟩
  · -- the reply was not received, and is still to come
    rw [login_expecting_of_error keep (hperform ⟨status, some bytes₁⟩),
      login_expecting_of_error keep (hperform ⟨status, some bytes₂⟩)]
    exact ⟨rfl, rfl, rfl, rfl⟩
  · have hanswer : Exchange.answer ⟨request, .answered ⟨status, some bytes₁⟩⟩
          (.authenticate credentials) =
        Exchange.answer ⟨request, .answered ⟨status, some bytes₂⟩⟩ (.authenticate credentials) := by
      rcases Exchange.signIn_cases request status credentials with ⟨e, hcase⟩ | hcase
      · rw [hcase, hcase]
      · rw [hcase, hcase, h]
    have hafter : c.client.after ⟨request, .answered ⟨status, some bytes₁⟩⟩ wire =
        c.client.after ⟨request, .answered ⟨status, some bytes₂⟩⟩ wire := rfl
    have hsame := (hperform ⟨status, some bytes₁⟩).trans
      ((Prod.ext hanswer hafter).trans (hperform ⟨status, some bytes₂⟩).symm)
    rw [login_expecting_congr keep hsame]
    exact Outcome.alike_refl _

/-- A login with a reply that is refused. -/
theorem login_fails (c : Console σ) (status : Nat) {bytes : ByteArray}
    (h : ∃ e, (Payload.ofBytes bytes).bind (Payload.decode SignIn.ofJson) = .error e)
    (later : List Delivery) (credentials : Credentials) (keep : Bool) :
    ∃ e, ((c.expecting (.answered ⟨status, some bytes⟩ :: later)).login credentials keep).result =
      .error e := by
  rcases c.client.perform_expecting_cases (.authenticate credentials) later with
    ⟨e, hperform⟩ | ⟨request, wire, hperform⟩
  · rw [login_expecting_of_error keep (hperform ⟨status, some bytes⟩)]
    exact ⟨e, rfl⟩
  · have hanswer : ∃ e, Exchange.answer ⟨request, .answered ⟨status, some bytes⟩⟩
        (.authenticate credentials) = .error e := by
      rcases Exchange.signIn_cases request status credentials with ⟨e, hcase⟩ | hcase
      · exact ⟨e, hcase bytes⟩
      · rw [hcase]
        exact h
    obtain ⟨e, he⟩ := hanswer
    have hfails := hperform ⟨status, some bytes⟩
    rw [he] at hfails
    rw [login_expecting_of_error keep hfails]
    exact ⟨e, rfl⟩

end Console

end

/-- **Null in place of a missing field.**  The documents of two replies are the same but for nulls
that count as missing: the user, and the fields of the record of the user.  Then they are decoded to
the same, and the login that gets one of them has the same result as the login that gets the other,
says the same and leaves the same user and the same session behind.  The flag is an exception: where
it is null, the document is refused and no login succeeds. -/
theorem login_tolerates_null {v₁ v₂ : Json} {bytes₁ bytes₂ : ByteArray}
    (h₁ : Json.ofBytes bytes₁ = some v₁) (h₂ : Json.ofBytes bytes₂ = some v₂)
    (h : SignIn.withoutNulls v₁ = SignIn.withoutNulls v₂) :
    SignIn.ofJson v₁ = SignIn.ofJson v₂ ∧
      (∀ (σ : Type) [TokenSlot σ] (c : Console σ) status later credentials keep,
        ((c.expecting (.answered ⟨status, some bytes₁⟩ :: later)).login credentials keep).Alike
          ((c.expecting (.answered ⟨status, some bytes₂⟩ :: later)).login credentials keep)) ∧
      (v₁.field? "mustChangePassword" = some .null →
        (∃ e, SignIn.ofJson v₁ = .error e) ∧
        ∀ (σ : Type) [TokenSlot σ] (c : Console σ) status later credentials keep,
          ∃ e, ((c.expecting (.answered ⟨status, some bytes₁⟩ :: later)).login
            credentials keep).result = .error e) := by
  have hanswer : SignIn.ofJson v₁ = SignIn.ofJson v₂ := by
    obtain ⟨w₁, -, rfl⟩ := Json.ofBytes_eq_some_iff.1 h₁
    obtain ⟨w₂, -, rfl⟩ := Json.ofBytes_eq_some_iff.1 h₂
    rw [← SignIn.ofJson_withoutNulls, h, SignIn.ofJson_withoutNulls]
  refine ⟨hanswer, ?_, ?_⟩
  · intro σ _ c status later credentials keep
    have hdecode := Payload.decode_signIn_of_withoutNulls h₁ h₂ h hanswer
    exact c.login_alike status hdecode later credentials keep
  · intro hnull
    have hrefused := SignIn.ofJson_null_flag hnull
    refine ⟨hrefused, fun σ _ c status later credentials keep => ?_⟩
    exact c.login_fails status (Payload.decode_signIn_of_refused h₁ hrefused) later credentials keep

/-- A record of which the id and two more fields are null, or not there at all. -/
theorem login_tolerates_null_record :
    let answer (user : List (String × Json)) : Json :=
      .object [("authToken", .string "t"), ("user", .object user)]
    let reply (v : Json) : Delivery := .answered ⟨200, some v.compact.toUTF8⟩
    let missing := answer [("admin", .bool true), ("username", .string "bob")]
    let written := answer [("admin", .bool true), ("disabled", .null), ("displayName", .null),
      ("userId", .null), ("username", .string "bob")]
    ∀ (c : Console MemorySlot) credentials keep,
      ((c.expecting [reply missing]).login credentials keep).Alike
        ((c.expecting [reply written]).login credentials keep) := by
  intro answer reply missing written c credentials keep
  have hread {user : List (String × Json)} (hfits : ∀ f ∈ user, Json.Fits 125 f.2)
      (hcanonical : (answer user).canonical = answer user) :
      Json.ofBytes (answer user).compact.toUTF8 = some (answer user) := by
    have hanswer : Json.Fits Json.maxDepth (answer user) := by
      refine .object ?_
      simp only [List.forall_mem_cons]
      exact ⟨.string _, .object hfits, fun f hf => nomatch hf⟩
    exact Json.ofBytes_eq_some_iff.2
      ⟨answer user, Json.bodyDocument_compact hanswer, hcanonical⟩
  have hmissing : Json.ofBytes missing.compact.toUTF8 = some missing := by
    refine hread ?_ rfl
    simp only [List.forall_mem_cons]
    exact ⟨.bool _, .string _, fun f hf => nomatch hf⟩
  have hwritten : Json.ofBytes written.compact.toUTF8 = some written := by
    refine hread ?_ rfl
    simp only [List.forall_mem_cons]
    exact ⟨.bool _, .null, .null, .null, .string _, fun f hf => nomatch hf⟩
  exact (login_tolerates_null hmissing hwritten rfl).2.1 MemorySlot c 200 [] credentials keep

/-- One answer without the flag, and the same one with null for it: only the first signs in. -/
theorem null_flag_refused :
    let missing : Json := .object [("authToken", .string "t")]
    let written : Json := .object [("authToken", .string "t"), ("mustChangePassword", .null)]
    let c : Console MemorySlot :=
      { client := { endpoint := .default, session := .start ⟨none⟩, wire := { peer := .absent } } }
    let outcome (v : Json) : Outcome MemorySlot Unit :=
      (c.expecting [.answered ⟨200, some v.compact.toUTF8⟩]).login ⟨"bob", "pw"⟩ false
    SignIn.ofJson missing = .ok ⟨.guest, "t", false⟩ ∧
      SignIn.ofJson written = .error (.kind .null .flag) ∧
      (outcome missing).result.toOption = some () ∧
      (outcome missing).console.client.session.token = some "t" ∧
      (outcome written).result.toOption = none ∧
      (outcome written).console.client.session.token = none := by
  intro missing written c outcome
  exact ⟨rfl, rfl, by decide +kernel⟩

end AccountAdmin
