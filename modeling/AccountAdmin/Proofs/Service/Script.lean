import AccountAdmin.Proofs.Service.Course

/-!
# Scripts of calls

What a program asks of the service can be written down before anybody has replied, as a tree: a
call, and for each answer to it what comes next.  A `Script` is such a tree.  It ends with a value,
or with a refusal, where something is found to be wrong that no call is needed to find out.

`Script.Plays` says which calls are made, each in one exchange, if a program goes by a script.  A
call that cannot be sent and a call that is not answered both end the play, so nothing that the tree
has behind them is ever sent.  This is not a matter of counting replies: a reply may be there and
still hold no answer, because of its status, its syntax, its shape or its envelope.

Most scripts branch only in order to carry an answer along, or to refuse.  For them a plain list of
calls tells as much as the tree, and `Script.Spells` says that it does:

* `Script.Plays.prefix_of_spells`: the calls that are made are the first ones of the list;
* `Script.Plays.isSome_iff_of_spells`: the play gets to the end of the script exactly if all calls
  of the list are made and answered.

Where a later call is about the answer to the first one, the list depends on that answer, and
`Script.Plays.exists_answer` fixes the answer: whatever the play comes to, the script might have had
that answer in it from the beginning.
-/

namespace AccountAdmin

/-! ## Calls and exchanges -/

/-- The request of an exchange is the one of a call to an endpoint. -/
structure Exchange.Carries (x : Exchange) (e : Endpoint) (call : Call) : Prop where
  method_eq : x.request.method = call.method
  goesTo : x.request.GoesTo e call.path
  body_eq : x.request.body = call.body.map Json.compact

theorem Client.carries_prepare {σ : Type} (c : Client σ) {call : Call} {url : Url}
    (hurl : c.endpoint.resolve call.path = .ok url) (d : Delivery) :
    (Exchange.mk (c.prepare call.method url call.body) d).Carries c.endpoint call :=
  ⟨rfl, goesTo_prepare hurl _ _, rfl⟩

/-- A call and the exchange in which it was made. -/
structure CallMade where
  call : Call
  exchange : Exchange

/-- The reply holds an answer to the call. -/
def CallMade.Answered (k : CallMade) : Prop := ∃ a, k.exchange.answer k.call = .ok a

theorem CallMade.not_answered {call : Call} {x : Exchange} {e : Error}
    (h : x.answer call = .error e) : ¬(CallMade.mk call x).Answered := by
  rintro ⟨a, ha⟩
  rw [h] at ha
  cases ha

/-! ## Scripts -/

/-- Calls to be made, each of which may depend on the answers to those before it. -/
inductive Script (α : Type) where
  | done (a : α)
  | refuse
  | call (call : Call) (next : call.Answer → Script α)

namespace Script

variable {α β : Type}

/-- A script that goes on with another one. -/
def bind : Script α → (α → Script β) → Script β
  | done a, f => f a
  | refuse, _ => refuse
  | call c next, f => .call c fun a => (next a).bind f

/-- The calls that are made by a script, and the value at its end if that is reached. -/
inductive Plays (e : Endpoint) : Script α → List CallMade → Option α → Prop where
  | done (a : α) : Plays e (.done a) [] (some a)
  | refuse : Plays e .refuse [] none
  /-- The call cannot be sent. -/
  | unsent (c : Call) (next : c.Answer → Script α) : Plays e (.call c next) [] none
  | failed {c : Call} {next : c.Answer → Script α} {x : Exchange} {err : Error}
      (hx : x.Carries e c) (herr : x.answer c = .error err) : Plays e (.call c next) [⟨c, x⟩] none
  | answered {c : Call} {next : c.Answer → Script α} {x : Exchange} {a : c.Answer}
      {made : List CallMade} {r : Option α} (hx : x.Carries e c) (ha : x.answer c = .ok a)
      (hrest : Plays e (next a) made r) : Plays e (.call c next) (⟨c, x⟩ :: made) r

namespace Plays

variable {e : Endpoint} {p : Script α} {made : List CallMade} {r : Option α}

theorem bind_of_some {f : α → Script β} {a : α} {more : List CallMade} {r : Option β}
    (h : p.Plays e made (some a)) (hmore : (f a).Plays e more r) :
    (p.bind f).Plays e (made ++ more) r := by
  generalize hend : some a = r' at h
  induction h with
  | done a' =>
    cases hend
    exact hmore
  | refuse | unsent | failed => cases hend
  | answered hx ha _ ih => exact .answered hx ha (ih hend)

theorem bind_of_none (h : p.Plays e made none) (f : α → Script β) :
    (p.bind f).Plays e made none := by
  generalize hend : none = r' at h
  induction h with
  | done => cases hend
  | refuse => exact .refuse
  | unsent c next => exact .unsent c _
  | failed hx herr => exact .failed hx herr
  | answered hx ha _ ih => exact .answered hx ha (ih hend)

/-- Each request is the one of its call. -/
theorem carries (h : p.Plays e made r) : ∀ k ∈ made, k.exchange.Carries e k.call := by
  induction h with
  | done | refuse | unsent => exact fun k hk => nomatch hk
  | failed hx _ =>
    intro k hk
    obtain rfl := List.mem_singleton.1 hk
    exact hx
  | answered hx _ _ ih =>
    intro k hk
    rcases List.mem_cons.1 hk with rfl | hk
    · exact hx
    · exact ih k hk

/-- A call is made only if every call before it was answered. -/
theorem answered_before (h : p.Plays e made r) {before after : List CallMade} {k : CallMade}
    (hsplit : made = before ++ k :: after) : ∀ j ∈ before, j.Answered := by
  induction h generalizing before with
  | done | refuse | unsent => cases before <;> cases hsplit
  | failed =>
    cases before with
    | nil => exact fun j hj => nomatch hj
    | cons j before =>
      obtain ⟨-, hnil⟩ := List.cons.inj hsplit
      exact absurd hnil.symm (by simp)
  | answered _ ha _ ih =>
    cases before with
    | nil => exact fun j hj => nomatch hj
    | cons j before =>
      obtain ⟨rfl, hrest⟩ := List.cons.inj hsplit
      intro i hi
      rcases List.mem_cons.1 hi with rfl | hi
      · exact ⟨_, ha⟩
      · exact ih hrest i hi

/-- Whatever comes of a script that starts with a call, there is an answer to the call with which it
might have come of the script just as well; and if anything was sent behind the call, then this is
the answer that was given. -/
theorem exists_answer {c : Call} {next : c.Answer → Script α} (a₀ : c.Answer)
    (h : (Script.call c next).Plays e made r) :
    ∃ a, (Script.call c fun _ => next a).Plays e made r ∧
      (1 < made.length → ∃ x rest, made = ⟨c, x⟩ :: rest ∧ x.answer c = .ok a) := by
  cases h with
  | unsent => exact ⟨a₀, .unsent c _, fun hmore => absurd hmore (by simp)⟩
  | failed hx herr => exact ⟨a₀, .failed hx herr, fun hmore => absurd hmore (by simp)⟩
  | answered hx ha hrest => exact ⟨_, .answered hx ha hrest, fun _ => ⟨_, _, rfl, ha⟩⟩

theorem length_le_one_of_refuse {c : Call}
    (h : (Script.call c fun _ => (.refuse : Script α)).Plays e made r) : made.length ≤ 1 := by
  cases h with
  | unsent | failed => simp
  | answered _ _ hrest =>
    cases hrest
    simp

end Plays

/-! ## Scripts as lists -/

/-- Whatever the answers, a script makes these calls one after another; it may refuse to go on, but
not behind the last of them. -/
inductive Spells : Script α → List Call → Prop where
  | done (a : α) : Spells (.done a) []
  | refuse (c : Call) (calls : List Call) : Spells .refuse (c :: calls)
  | call {c : Call} {next : c.Answer → Script α} {calls : List Call}
      (hnext : ∀ a, Spells (next a) calls) : Spells (.call c next) (c :: calls)

namespace Plays

variable {e : Endpoint} {p : Script α} {made : List CallMade} {r : Option α} {calls : List Call}

theorem prefix_of_spells (h : p.Plays e made r) (hp : p.Spells calls) :
    made.map (·.call) <+: calls := by
  induction h generalizing calls with
  | done | refuse | unsent => exact List.nil_prefix
  | failed =>
    cases hp with
    | call hnext => exact List.prefix_append [_] _
  | answered _ _ _ ih =>
    cases hp with
    | call hnext => exact List.prefix_cons_inj _ |>.2 (ih (hnext _))

theorem isSome_iff_of_spells (h : p.Plays e made r) (hp : p.Spells calls) :
    r.isSome ↔ made.length = calls.length ∧ ∀ k ∈ made, k.Answered := by
  induction h generalizing calls with
  | done a =>
    cases hp with
    | done => simp
  | refuse =>
    cases hp with
    | refuse => simp
  | unsent =>
    cases hp with
    | call => simp
  | failed _ herr =>
    cases hp with
    | call => simp [CallMade.not_answered herr]
  | answered _ ha _ ih =>
    cases hp with
    | call hnext =>
      have hanswered : CallMade.Answered ⟨_, _⟩ := ⟨_, ha⟩
      rw [ih (hnext _)]
      simp [hanswered]

end Plays

end Script

end AccountAdmin
