import AccountAdmin.Proofs.Program.RequestScript

/-!
# Whom an administrator's command is about

A command that enables, disables or deletes a user or resets a password names the user by an id.
The program fetches the record of that user first, so that it can say the name of the user
afterwards, and then acts on the record: what it sends is about the id *in the record*.  A record
without an id is refused.  Nothing compares the id in the record with the id that was named, so it
is the service that has the last word on whom the command is about, as `delete_of_other_record`
shows.

`modifies_fetched_record` is what holds for every service: there is at most one request that
modifies anything, it stands right behind the fetch, and it is about the record that was fetched.
-/

namespace AccountAdmin

namespace Command

/-- The user that an administrator's command names. -/
def named? : Command → Option UserId
  | setUserEnabled n _ | deleteUser n | resetPassword n => some n
  | _ => none

/-- The call by which an administrator's command modifies the user with an id. -/
def modification? (m : UserId) : Command → Option Call
  | setUserEnabled _ enabled => some (.setStatus ⟨m, !enabled⟩)
  | deleteUser _ => some (.delete m)
  | resetPassword _ => some (.resetPassword m)
  | _ => none

variable {command : Command} {n : UserId}

theorem ne_shell_of_named (h : command.named? = some n) : command ≠ .shell := by
  rintro rfl
  cases h

/-- Behind the fetch stands the one call that modifies anything. -/
theorem calls_of_named (h : command.named? = some n) (own : Option UserId) (m : UserId) :
    ∃ call rest, command.calls own m = .get n :: call :: rest ∧
      command.modification? m = some call ∧ ∀ c ∈ rest, c.method = .get := by
  cases command with
  | setUserEnabled | deleteUser =>
    obtain rfl := Option.some.inj h
    exact ⟨_, [.list], rfl, rfl, by simp [Call.method]⟩
  | resetPassword =>
    obtain rfl := Option.some.inj h
    exact ⟨_, [], rfl, rfl, fun c hc => nomatch hc⟩
  | _ => cases h

theorem goesOn_of_named (h : command.named? = some n) {m : UserId} {first : Exchange}
    (hgoes : command.GoesOn m first) :
    ∃ u : UserRecord, first.answer (.get n) = .ok u ∧ u.id = some m := by
  cases command with
  | setUserEnabled | deleteUser | resetPassword =>
    obtain rfl := Option.some.inj h
    exact hgoes
  | _ => cases h

end Command

/-- Where nothing but the second of some calls is more than a question, a call that is more than a
question is the second one. -/
theorem CallMade.eq_second {c d : Call} {rest : List Call} {made : List CallMade} {k : CallMade}
    (hbegins : made.map (·.call) <+: c :: d :: rest) (hc : c.method = .get)
    (hrest : ∀ c ∈ rest, c.method = .get) (hk : k ∈ made) (hmethod : k.call.method ≠ .get) :
    ∃ first after, made = first :: k :: after ∧ first.call = c ∧ k.call = d ∧
      ∀ j ∈ after, j.call.method = .get := by
  match made, hk with
  | first :: made, hk =>
    obtain ⟨rfl, htail⟩ := List.cons_prefix_cons.1 hbegins
    have hne : k ≠ first := by
      rintro rfl
      exact hmethod hc
    match made, List.mem_of_ne_of_mem hne hk with
    | second :: after, hk =>
      obtain ⟨rfl, hafter⟩ := List.cons_prefix_cons.1 htail
      have hget : ∀ j ∈ after, j.call.method = .get := fun j hj =>
        hrest j.call (hafter.mem (List.mem_map_of_mem hj))
      rcases List.mem_cons.1 hk with rfl | hk
      · exact ⟨first, after, rfl, rfl, rfl, hget⟩
      · exact absurd (hget k hk) hmethod

/-- An administrator's command that names the user `n` modifies something only if the record that it
fetches with `n` has an id `m`.  Then it sends one such request, right behind the fetch, and that is
the request of the command for `m`: the status of `m` is set, `m` is deleted, or the password of `m`
is reset.  So it is about `n` whenever the record has the id that was asked for. -/
theorem modifies_fetched_record (world : Surroundings) (words : List String)
    {invocation : Invocation} {command : Command} {n : UserId}
    (hread : Line.readProgram world.env words = .ok invocation)
    (hcommand : invocation.command = some command) (hnamed : command.named? = some n) :
    let xs := world.peer.answers (Program.run world words).sent
    ∀ x ∈ xs, x.request.method ≠ .get → ∃ s fetch after m call,
      Program.stationOf world invocation = .ok s ∧ xs = fetch :: x :: after ∧
      fetch.Carries s.console.client.endpoint (.get n) ∧
      (∃ u : UserRecord, fetch.answer (.get n) = .ok u ∧ u.id = some m) ∧
      command.modification? m = some call ∧ x.Carries s.console.client.endpoint call ∧
      ∀ y ∈ after, y.request.method = .get := by
  intro xs x hx hmethod
  cases hstation : Program.stationOf world invocation with
  | error fault =>
    have hnil : xs = [] := by
      rw [show xs = world.peer.answers _ from rfl,
        (Program.run_of_stationOf_error hread hcommand hstation).1]
      cases world.peer <;> rfl
    rw [hnil] at hx
    cases hx
  | ok s =>
    obtain ⟨own, m, made, r, p, hmade, hplays, hspells, hgoes, -⟩ :=
      Program.exists_made hread hcommand (Command.ne_shell_of_named hnamed) hstation
    obtain ⟨call, rest, hcalls, hcall, hrest⟩ := Command.calls_of_named hnamed own m
    have hbegins := hplays.prefix_of_spells hspells
    rw [hcalls] at hbegins
    have hcarries := hplays.carries
    have hxs : xs = made.map (·.exchange) := hmade.symm
    rw [hxs] at hx
    obtain ⟨k, hk, rfl⟩ := List.mem_map.1 hx
    rw [(hcarries k hk).method_eq] at hmethod
    obtain ⟨first, after, rfl, hfirst, rfl, hafter⟩ :=
      CallMade.eq_second hbegins rfl hrest hk hmethod
    refine ⟨s, first.exchange, after.map CallMade.exchange, m, k.call, rfl, hxs, ?_, ?_, hcall,
      hcarries k hk, fun y hy => ?_⟩
    · rw [← hfirst]
      exact hcarries first List.mem_cons_self
    · exact Command.goesOn_of_named hnamed (hgoes first rfl (by simp))
    · obtain ⟨j, hj, rfl⟩ := List.mem_map.1 hy
      rw [(hcarries j (by simp [hj])).method_eq]
      exact hafter j hj

/-- User 7 is to be deleted, the record that is fetched has the id 8, and user 8 is deleted. -/
theorem modifies_fetched_record_delete :
    let world : Surroundings := .ofReplies [.answered ⟨200, some "\x7b\"userId\":8\x7d".toUTF8⟩,
      .answered ⟨204, none⟩, .answered ⟨200, some "[]".toUTF8⟩]
    let xs := world.peer.answers (Program.run world ["user", "delete", "7"]).sent
    ∃ fetch x after, ∃ u : UserRecord, ∃ m e, xs = fetch :: x :: after ∧
      fetch.answer (.get { value := 7 }) = .ok u ∧ u.id = some m ∧ x.Carries e (.delete m) := by
  intro world xs
  let invocation : Invocation :=
    ⟨.plain, false, none, none, some (.deleteUser { value := 7 })⟩
  have hread : Line.readProgram world.env ["user", "delete", "7"] = .ok invocation := rfl
  have hmethods : .delete ∈ xs.map (·.request.method) := by decide +kernel
  obtain ⟨x, hx, hdelete⟩ := List.mem_map.1 hmethods
  obtain ⟨s, fetch, after, m, call, -, hxs, -, ⟨u, hu, hid⟩, hcall, hcarries, -⟩ :=
    modifies_fetched_record world _ hread rfl rfl x hx (by rw [hdelete]; decide)
  obtain rfl := Option.some.inj hcall
  exact ⟨fetch, x, after, u, m, _, hxs, hu, hid, hcarries⟩

/-- What is deleted is not always the user that was named: this request does not go to the path of
user 7. -/
theorem delete_of_other_record :
    let world : Surroundings := .ofReplies [.answered ⟨200, some "\x7b\"userId\":8\x7d".toUTF8⟩,
      .answered ⟨204, none⟩, .answered ⟨200, some "[]".toUTF8⟩]
    ¬∀ r ∈ (Program.run world ["user", "delete", "7"]).sent, r.method = .delete →
      Endpoint.default.resolve "/user/7" = .ok r.url := by
  intro world h
  have hother : ¬∀ r ∈ (Program.run world ["user", "delete", "7"]).sent, r.method = .delete →
      (Endpoint.default.resolve "/user/7").toOption = some r.url := by decide +kernel
  refine hother fun r hr hdelete => ?_
  rw [h r hr hdelete]
  rfl

end AccountAdmin
