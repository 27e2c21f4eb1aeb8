import AccountAdmin.Proofs.Console.Course

/-!
# The life of a session

A session holds a token twice, in memory and in its slot, and the two may differ.  What they hold is
decided by the course of the session alone: a sign-in sets the one in memory, and the one in the
slot if it is to be kept; a sign-out and a refused token empty both; everything else, however it
fails, changes nothing.  `Holding.act` is this rule, and `session_lifecycle` says that every session
follows it, whatever is done with its console and whatever the peer replies.

The token is not the only thing that can authorize a request.  A URL may say a user, and then the
request has a header for the user as well, in front of the one for the token, and it has that header
even if no token is held (`authorized_without_token`).

A `Move` is anything that can be done with a console from outside: an action, a call or a plain
request of its client, and the two operations on the token.
-/

namespace AccountAdmin

/-! ## Moves -/

/-- Something that is done with a console. -/
inductive Move where
  | action (action : Action)
  | perform (call : Call)
  | request (method : Method) (path : String) (body : Option Json)
  | setToken (token : String) (keep : Bool)
  | clearToken

namespace Move

/-- What a move answers. -/
def Answer : Move → Type
  | action a => a.Answer
  | perform call => call.Answer
  | request _ _ _ => Payload
  | setToken _ _ | clearToken => Unit

/-- What a move is for, as far as the session is concerned. -/
def purpose : Move → Purpose
  | action a => a.purpose
  | setToken token keep => .setToken token keep
  | clearToken => .signOut
  | perform _ | request _ _ _ => .other

variable {σ : Type} [TokenSlot σ]

/-- Makes a move. -/
def run : (move : Move) → Console σ → Outcome σ move.Answer
  | action a, c => a.run c
  | perform call, c =>
    let (result, client) := c.client.perform call
    ⟨result, [], { c with client }⟩
  | request method path body, c =>
    let (result, client) := c.client.request method path body
    ⟨result, [], { c with client }⟩
  | setToken token keep, c => ⟨.ok (), [], { c with client := c.client.setToken token keep }⟩
  | clearToken, c => ⟨.ok (), [], { c with client := c.client.clearToken }⟩

/-- The exchanges of a move. -/
def exchanges (move : Move) (c : Console σ) : List Exchange :=
  c.client.wire.exchangesTo (move.run c).console.client.wire

/-- The course of a move. -/
def course (move : Move) (c : Console σ) : List Happening := move.purpose.course (move.exchanges c)

/-- The console after some moves. -/
def runAll : List Move → Console σ → Console σ
  | [], c => c
  | move :: moves, c => runAll moves (move.run c).console

/-- The course of some moves. -/
def courseOf : List Move → Console σ → List Happening
  | [], _ => []
  | move :: moves, c => move.course c ++ courseOf moves (move.run c).console

/-- A move does nothing to the session but what it is for. -/
theorem serves (move : Move) (c : Console σ) :
    (move.run c).Serves anyPath c.client move.purpose := by
  cases move with
  | action a => exact a.serves (fun _ => trivial) c
  | perform call =>
    rcases c.client.perform_cases call with ⟨e, h, he⟩ | ⟨url, d, wire, hurl, htakes, h⟩
    · refine ⟨[], ?_, ?_⟩
      · rw [run, h]
        exact .nil c.client
      · rw [run, h]
        exact he.isSessionExpired_eq
    · refine ⟨[⟨c.client.prepare call.method url call.body, d⟩], ?_, ?_⟩
      · rw [run, h]
        exact (Client.Step.exchanged trivial hurl htakes).course
      · rw [run, h]
        exact (Exchange.isExpiry_answer _ call).trans (Bool.or_false _).symm
  | request method path body =>
    rcases c.client.request_cases method path body with
      ⟨e, h, he⟩ | ⟨url, d, wire, hurl, htakes, h⟩
    · refine ⟨[], ?_, ?_⟩
      · rw [run, h]
        exact .nil c.client
      · rw [run, h]
        exact he.isSessionExpired_eq
    · refine ⟨[⟨c.client.prepare method url body, d⟩], ?_, ?_⟩
      · rw [run, h]
        exact (Client.Step.exchanged trivial hurl htakes).course
      · rw [run, h]
        exact (Exchange.isExpiry_payload _).trans (Bool.or_false _).symm
  | setToken token keep => exact ⟨[], (Client.Step.signedIn token keep).course, rfl⟩
  | clearToken => exact ⟨[], Client.Step.signedOut.course, rfl⟩

/-- Step lemma for runs: a move takes the client along its course. -/
theorem course_run (move : Move) (c : Console σ) :
    Client.Course anyPath c.client (move.course c) (move.run c).console.client :=
  (move.serves c).follows.course

/-- A run of moves takes the client along its course. -/
theorem course_runAll (moves : List Move) (c : Console σ) :
    Client.Course anyPath c.client (courseOf moves c) (runAll moves c).client := by
  induction moves generalizing c with
  | nil => exact .nil c.client
  | cons move moves ih => exact (move.course_run c).trans (ih _)

end Move

/-! ## Holdings -/

/-- The token in memory and the token in the slot. -/
@[ext] structure Holding where
  memory : Option String
  stored : Option String
  deriving DecidableEq, Repr

namespace Holding

/-- Nothing is held. -/
def empty : Holding := ⟨none, none⟩

/-- What is held after something has happened. -/
def act (k : Holding) : Happening → Holding
  | .exchanged x => if x.expires then empty else k
  | .signedIn token keep => ⟨some token, if keep then some token else k.stored⟩
  | .signedOut => empty

/-- A token in the slot is held only together with one in memory. -/
def Sound (k : Holding) : Prop := k.stored.isSome → k.memory.isSome

theorem sound_empty : empty.Sound := fun h => h

theorem Sound.act {k : Holding} (hk : k.Sound) (h : Happening) : (k.act h).Sound := by
  cases h with
  | exchanged x =>
    rw [Holding.act]
    split
    · exact sound_empty
    · exact hk
  | signedIn token keep => exact fun _ => rfl
  | signedOut => exact sound_empty

theorem Sound.foldl {k : Holding} (hk : k.Sound) (hs : List Happening) :
    (hs.foldl Holding.act k).Sound := by
  induction hs generalizing k with
  | nil => exact hk
  | cons h hs ih => exact ih (hk.act h)

end Holding

/-- What a session on a memory slot holds. -/
def Session.holding (s : Session MemorySlot) : Holding := ⟨s.token, s.slot.content⟩

theorem Session.holding_act (s : Session MemorySlot) (h : Happening) :
    (h.act s).holding = s.holding.act h := by
  cases h with
  | exchanged x =>
    rw [Happening.act, Holding.act]
    split <;> rfl
  | signedIn token keep => cases keep <;> rfl
  | signedOut => rfl

theorem Session.holding_foldl (s : Session MemorySlot) (hs : List Happening) :
    (hs.foldl Happening.act s).holding = hs.foldl Holding.act s.holding := by
  induction hs generalizing s with
  | nil => rfl
  | cons h hs ih => rw [List.foldl_cons, List.foldl_cons, ih, holding_act]

/-! ## Runs -/

namespace Console

/-- A console whose session was opened on a memory slot with this content. -/
def opened (endpoint : Endpoint) (seed : Option String) (peer : Peer) : Console MemorySlot where
  client := { endpoint, session := .start ⟨seed⟩, wire := { peer } }

theorem holding_opened (endpoint : Endpoint) (seed : Option String) (peer : Peer) :
    (opened endpoint seed peer).client.session.holding = ⟨seed, seed⟩ := rfl

end Console

theorem Move.isExpiry_result_iff {σ : Type} [TokenSlot σ] (move : Move) (c : Console σ) :
    isExpiry (move.run c).result = true ↔ ∃ x ∈ move.exchanges c, x.expires = true := by
  rw [(move.serves c).follows.expiry, Purpose.exchangesOf_course, List.any_eq_true]
  rfl

theorem Move.login_succeeds_iff {σ : Type} [TokenSlot σ] (c : Console σ)
    (credentials : Credentials) (keep : Bool) :
    (c.login credentials keep).result = .ok () ↔
      ∃ token, .signedIn token keep ∈ Move.course (.action (.login credentials keep)) c := by
  have hpurpose : (Move.action (.login credentials keep)).purpose = .signIn keep := rfl
  have hexchanges : exchanges (.action (.login credentials keep)) c =
      c.client.wire.exchangesTo (c.login credentials keep).console.client.wire := by
    rw [exchanges, run, Action.run]
  rw [Console.login_succeeds_iff, course, hpurpose, hexchanges]

/-- **The life of a session.**  A console is opened on a slot with any content, and then any moves
are made.  What its session holds is the fold of the course of the moves; every request that the
wire keeps is an exchange of the course, with the reply that the script of the peer has for it, and
it is authorized by the user of its URL, if there is one, by the token that the fold before it has
in memory, if there is one, and by nothing else; a further move says that the session is over
exactly if one of its own requests carried a token that was refused, and a further sign-in succeeds
exactly if its course sets a token; and a token in the slot is held only together with one in
memory. -/
theorem session_lifecycle (endpoint : Endpoint) (seed : Option String) (peer : Peer)
    (moves : List Move) :
    let start := Console.opened endpoint seed peer
    let last := Move.runAll moves start
    let course := Move.courseOf moves start
    last.client.session.holding = course.foldl Holding.act ⟨seed, seed⟩ ∧
      peer.answers last.client.wire.sent = exchangesOf course ∧
      (∀ before x after, course = before ++ .exchanged x :: after →
        ∃ path url, endpoint.resolve path = .ok url ∧ x.request.url = url.onWire ∧
          x.request.authorizations = url.basic?.toList ++
            ((before.foldl Holding.act ⟨seed, seed⟩).memory.map ("Bearer " ++ ·)).toList) ∧
      (∀ move : Move, isExpiry (move.run last).result = true ↔
        ∃ x ∈ move.exchanges last, x.expires = true) ∧
      (∀ credentials keep, (last.login credentials keep).result = .ok () ↔
        ∃ token, .signedIn token keep ∈ Move.course (.action (.login credentials keep)) last) ∧
      (last.client.session.slot.content.isSome → last.client.session.token.isSome) := by
  intro start last course
  have hcourse : Client.Course anyPath start.client course last.client :=
    Move.course_runAll moves start
  have hfold : last.client.session.holding = course.foldl Holding.act ⟨seed, seed⟩ := by
    rw [hcourse.session_eq, Session.holding_foldl, Console.holding_opened]
  refine ⟨hfold, hcourse.answers_sent_eq rfl, ?_, fun move => move.isExpiry_result_iff last,
    Move.login_succeeds_iff last, ?_⟩
  · intro before x after hsplit
    rw [hsplit] at hcourse
    obtain ⟨hauthorization, path, -, url, hurl, hgoes, hbasic⟩ := hcourse.request_of_split
    refine ⟨path, url, hurl, hgoes, ?_⟩
    rw [Request.authorizations, hbasic, hauthorization,
      ← Console.holding_opened endpoint seed peer, ← Session.holding_foldl]
    rfl
  · have hsound : (course.foldl Holding.act ⟨seed, seed⟩).Sound :=
      Holding.Sound.foldl (fun h => h) course
    rw [← hfold] at hsound
    exact hsound

/-- No token is held, but the base URL says a user, and so the request is authorized. -/
theorem authorized_without_token :
    let start := Console.opened { baseUrl := "http://bob:pw@localhost:8080/rest" } none
      (.scripted [.answered ⟨200, some "\x7b\"userId\":7\x7d".toUTF8⟩])
    let last := Move.runAll [.action .refreshUser] start
    start.client.session.token = none ∧
      last.client.wire.sent.map (fun r => (r.url.toString, r.authorizations)) =
        [("http://localhost:8080/rest/user", ["Basic Ym9iOnB3"])] := by
  decide +kernel

end AccountAdmin
