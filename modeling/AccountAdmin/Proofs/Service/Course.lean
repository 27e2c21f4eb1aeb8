import AccountAdmin.Proofs.Service.Exchange

/-!
# The course of a client

Whatever a program does with a client, three kinds of things happen to the client's session: an
exchange on the wire, a token that is set, and a session that is cleared.  A *course* of a client is
the list of these, in the order in which they happen, and `Client.Course` says that a client gets
from one state to another by such a list.

## Reading a course off

A course is not recorded anywhere.  But the exchanges in it can be seen on the wire
(`Wire.exchangesTo`), and what the client is used for (`Purpose`) tells where the rest of it stands:
a token is set right behind the exchange whose reply brought it.  So a course can be read off from
outside, and `Client.Course.exchangesTo_eq` says that whoever does so gets the exchanges right.

## What a course tells

* `Client.Course.session_eq`: the session after a course is the fold of the course.
* `Client.Course.request_of_split`: every request of a course carries the token that the fold of the
  course before it holds, and goes to the URL of a path.
* `Happening.token_foldl`: the token held after a course has been held from the beginning, or since
  it was set, without anything in between that would have ended it.
-/

namespace AccountAdmin

/-- Something that bears on a session. -/
inductive Happening where
  | exchanged (x : Exchange)
  | signedIn (token : String) (keep : Bool)
  | signedOut

namespace Happening

/-- The exchange, if it is one. -/
def exchange? : Happening → Option Exchange
  | exchanged x => some x
  | signedIn _ _ | signedOut => none

/-- Whether a token held before is held no longer. -/
def endsToken : Happening → Bool
  | exchanged x => x.expires
  | signedIn _ _ | signedOut => true

variable {σ : Type} [TokenSlot σ]

/-- The session after something has happened. -/
def act (s : Session σ) : Happening → Session σ
  | exchanged x => if x.expires then s.clear else s
  | signedIn token keep => s.setToken token keep
  | signedOut => s.clear

/-- A token that is held has been held from the beginning or was set, and nothing has ended it
since. -/
theorem token_foldl {s : Session σ} {hs : List Happening} {t : String}
    (h : (hs.foldl act s).token = some t) :
    (s.token = some t ∧ ∀ k ∈ hs, k.endsToken = false) ∨
      ∃ before keep after, hs = before ++ signedIn t keep :: after ∧
        ∀ k ∈ after, k.endsToken = false := by
  induction hs generalizing s with
  | nil => exact .inl ⟨h, by simp⟩
  | cons k ks ih =>
    rw [List.foldl_cons] at h
    rcases ih h with ⟨htoken, hks⟩ | ⟨before, keep, after, rfl, hafter⟩
    · cases k with
      | exchanged x =>
        cases hx : x.expires with
        | true =>
          rw [act, if_pos hx] at htoken
          cases htoken
        | false =>
          rw [act, if_neg (by simp [hx])] at htoken
          refine .inl ⟨htoken, fun k hk => ?_⟩
          rcases List.mem_cons.mp hk with rfl | hk
          · exact hx
          · exact hks k hk
      | signedIn token keep =>
        have htoken' : token = t := Option.some.inj htoken
        subst htoken'
        exact .inr ⟨[], keep, ks, rfl, hks⟩
      | signedOut => cases htoken
    · exact .inr ⟨k :: before, keep, after, rfl, hafter⟩

end Happening

/-- The exchanges of a course. -/
def exchangesOf (hs : List Happening) : List Exchange := hs.filterMap Happening.exchange?

@[simp] theorem exchangesOf_append (hs ks : List Happening) :
    exchangesOf (hs ++ ks) = exchangesOf hs ++ exchangesOf ks := List.filterMap_append

@[simp] theorem exchangesOf_map_exchanged (xs : List Exchange) :
    exchangesOf (xs.map .exchanged) = xs := by
  induction xs with
  | nil => rfl
  | cons x xs ih => exact congrArg (x :: ·) ih

/-! ## Purposes -/

/-- What a client is used for, as far as its session is concerned. -/
inductive Purpose where
  /-- To sign in with the credentials that are sent. -/
  | signIn (keep : Bool)
  | setToken (token : String) (keep : Bool)
  | signOut
  | other
  deriving DecidableEq, Repr

namespace Purpose

/-- The course of a client that is used for this purpose, from the exchanges in it. -/
def course : Purpose → List Exchange → List Happening
  | signIn keep, xs => xs.flatMap fun x =>
      .exchanged x :: (x.signIn?.map fun answer => .signedIn answer.token keep).toList
  | setToken token keep, xs => xs.map .exchanged ++ [.signedIn token keep]
  | signOut, xs => xs.map .exchanged ++ [.signedOut]
  | other, xs => xs.map .exchanged

@[simp] theorem exchangesOf_course (p : Purpose) (xs : List Exchange) :
    exchangesOf (p.course xs) = xs := by
  cases p with
  | signIn keep =>
    induction xs with
    | nil => rfl
    | cons x xs ih =>
      rw [course] at ih ⊢
      rw [List.flatMap_cons, exchangesOf_append, ih]
      cases x.signIn? <;> rfl
  | setToken token keep =>
    rw [course, exchangesOf_append, exchangesOf_map_exchanged]
    exact List.append_nil xs
  | signOut =>
    rw [course, exchangesOf_append, exchangesOf_map_exchanged]
    exact List.append_nil xs
  | other => exact exchangesOf_map_exchanged xs

end Purpose

/-! ## Courses -/

/-- Requests may go anywhere. -/
def anyPath (_ : Method) (_ : String) : Prop := True

/-- Requests may go where the calls of the service go. -/
def servicePath (method : Method) (path : String) : Prop :=
  ∃ call : Call, call.method = method ∧ call.path = path

theorem servicePath_call (call : Call) : servicePath call.method call.path := ⟨call, rfl, rfl⟩

namespace Client

variable {σ : Type} [TokenSlot σ] {allowed : Method → String → Prop}

/-- One step of a client, whose requests go to the paths that are allowed. -/
inductive Step (allowed : Method → String → Prop) (c : Client σ) :
    Happening → Client σ → Prop where
  | exchanged {method : Method} {path : String} {body : Option Json} {url : Url} {d : Delivery}
      {wire : Wire} (hallowed : allowed method path) (hurl : c.endpoint.resolve path = .ok url)
      (htakes : c.wire.Takes (c.prepare method url body) d wire) :
      Step allowed c (.exchanged ⟨c.prepare method url body, d⟩)
        (c.after ⟨c.prepare method url body, d⟩ wire)
  | signedIn (token : String) (keep : Bool) :
      Step allowed c (.signedIn token keep) (c.setToken token keep)
  | signedOut : Step allowed c .signedOut c.clearToken

/-- A client gets from one state to another by a list of steps. -/
inductive Course (allowed : Method → String → Prop) :
    Client σ → List Happening → Client σ → Prop where
  | nil (c : Client σ) : Course allowed c [] c
  | cons {c next last : Client σ} {h : Happening} {hs : List Happening}
      (hstep : Step allowed c h next) (hrest : Course allowed next hs last) :
      Course allowed c (h :: hs) last

theorem Step.course {c last : Client σ} {h : Happening} (hstep : Step allowed c h last) :
    Course allowed c [h] last := .cons hstep (.nil last)

theorem Step.endpoint_eq {c last : Client σ} {h : Happening} (hstep : Step allowed c h last) :
    last.endpoint = c.endpoint := by
  cases hstep <;> rfl

theorem Step.session_eq {c last : Client σ} {h : Happening} (hstep : Step allowed c h last) :
    last.session = h.act c.session := by
  cases hstep <;> rfl

namespace Course

variable {c mid last : Client σ} {hs ks : List Happening}

theorem trans (h : Course allowed c hs mid) (k : Course allowed mid ks last) :
    Course allowed c (hs ++ ks) last := by
  induction h with
  | nil => exact k
  | cons hstep _ ih => exact .cons hstep (ih k)

/-- A course can be cut anywhere. -/
theorem split (h : Course allowed c (hs ++ ks) last) :
    ∃ mid, Course allowed c hs mid ∧ Course allowed mid ks last := by
  induction hs generalizing c with
  | nil => exact ⟨c, .nil c, h⟩
  | cons k hs ih =>
    cases h with
    | cons hstep hrest =>
      obtain ⟨mid, h₁, h₂⟩ := ih hrest
      exact ⟨mid, .cons hstep h₁, h₂⟩

theorem endpoint_eq (h : Course allowed c hs last) : last.endpoint = c.endpoint := by
  induction h with
  | nil => rfl
  | cons hstep _ ih => rw [ih, hstep.endpoint_eq]

/-- The session after a course is the fold of the course. -/
theorem session_eq (h : Course allowed c hs last) :
    last.session = hs.foldl Happening.act c.session := by
  induction h with
  | nil => rfl
  | cons hstep _ ih => rw [ih, hstep.session_eq, List.foldl_cons]

/-- The requests of a course are those that the wire has got to keep. -/
theorem sent_eq (h : Course allowed c hs last) :
    last.wire.sent = c.wire.sent ++ (exchangesOf hs).map (·.request) := by
  induction h with
  | nil c => exact (List.append_nil _).symm
  | cons hstep _ ih =>
    rw [ih]
    cases hstep with
    | exchanged _ _ htakes =>
      rw [after, htakes.sent, List.append_assoc]
      rfl
    | signedIn token keep => rfl
    | signedOut => rfl

/-- The replies of a course are those that the script of the peer holds. -/
theorem answers_append (h : Course allowed c hs last) (rs : List Request) :
    c.wire.peer.answers ((exchangesOf hs).map (·.request) ++ rs) =
      exchangesOf hs ++ last.wire.peer.answers rs := by
  induction h with
  | nil c => rfl
  | cons hstep _ ih =>
    cases hstep with
    | exchanged _ _ htakes =>
      rw [show ∀ x ks, exchangesOf (.exchanged x :: ks) = x :: exchangesOf ks from fun _ _ => rfl,
        List.map_cons, List.cons_append, htakes.answers_cons, List.cons_append]
      exact congrArg _ ih
    | signedIn token keep => exact ih
    | signedOut => exact ih

theorem answers_eq (h : Course allowed c hs last) :
    c.wire.peer.answers ((exchangesOf hs).map (·.request)) = exchangesOf hs := by
  have happend := h.answers_append []
  rwa [List.append_nil, show last.wire.peer.answers [] = [] by cases last.wire.peer <;> rfl,
    List.append_nil] at happend

/-- The exchanges of a course can be read off the wire. -/
theorem exchangesTo_eq (h : Course allowed c hs last) :
    c.wire.exchangesTo last.wire = exchangesOf hs := by
  rw [Wire.exchangesTo, h.sent_eq, List.drop_left, h.answers_eq]

/-- A wire that has kept nothing before a course keeps the requests of the course. -/
theorem answers_sent_eq (h : Course allowed c hs last) (hnil : c.wire.sent = []) :
    c.wire.peer.answers last.wire.sent = exchangesOf hs := by
  rw [h.sent_eq, hnil, List.nil_append, h.answers_eq]

/-- A request carries the token that is held when it is sent, and goes to the URL of a path. -/
theorem request_of_split {x : Exchange}
    (h : Course allowed c (hs ++ .exchanged x :: ks) last) :
    x.request.authorization =
        (hs.foldl Happening.act c.session).token.map ("Bearer " ++ ·) ∧
      ∃ path, allowed x.request.method path ∧ x.request.GoesTo c.endpoint path := by
  obtain ⟨mid, hbefore, hrest⟩ := h.split
  cases hrest with
  | cons hstep _ =>
    cases hstep with
    | exchanged hallowed hurl _ =>
      rw [← hbefore.session_eq, ← hbefore.endpoint_eq]
      exact ⟨rfl, _, hallowed, goesTo_prepare hurl _ _⟩

end Course

end Client

end AccountAdmin
