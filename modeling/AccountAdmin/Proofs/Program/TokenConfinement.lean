import AccountAdmin.Proofs.Program.Course

/-!
# A token goes only to the service that issued it

A run of the program has one base URL: the one that is asked for on the command line, or the one in
the configuration file, or the default one.  All of its requests go to paths behind that base URL.
The token that a request carries comes from one of two places:

* the configuration file, which at the start of the run held it for the same base URL, slashes at
  the end aside (`Program.KeptToken`);
* the reply to credentials that were sent to the same base URL in the course of the run
  (`Program.IssuedToken`).

In either case nothing has happened since that would have ended the token.  `token_confined` says
all of this of every run.

Where a token that was set comes from is not visible in the session, which only holds it.  It is
visible in the course: behind every token that is set stands the exchange that brought it
(`Issued`), and this is kept when courses are put together since no course begins with a token.
-/

namespace AccountAdmin

/-! ## Where tokens that are set come from -/

/-- Credentials were sent to the service, and the reply brought this token. -/
def Exchange.Issues (e : Endpoint) (x : Exchange) (token : String) : Prop :=
  x.request.method = .post ∧ x.request.GoesTo e "/authenticate" ∧
    ∃ answer, x.signIn? = some answer ∧ answer.token = token

/-- Every token that is set was brought by the exchange right before. -/
def Issued (e : Endpoint) (hs : List Happening) : Prop :=
  ∀ before token keep after, hs = before ++ .signedIn token keep :: after →
    ∃ earlier x, before = earlier ++ [.exchanged x] ∧ x.Issues e token

namespace Issued

variable {e : Endpoint} {hs ks : List Happening}

theorem nil : Issued e [] := by
  intro before token keep after h
  exact absurd h.symm (by simp)

theorem append (hhs : Issued e hs) (hks : Issued e ks) : Issued e (hs ++ ks) := by
  intro before token keep after h
  rcases List.append_eq_append_iff.mp h with ⟨as, hbefore, hks'⟩ | ⟨bs, hhs', hafter⟩
  · obtain ⟨earlier, x, has, hx⟩ := hks as token keep after hks'
    exact ⟨hs ++ earlier, x, by rw [hbefore, has, List.append_assoc], hx⟩
  · cases bs with
    | nil =>
      -- the second list would begin with the token
      obtain ⟨earlier, x, hnil, _⟩ := hks [] token keep after hafter.symm
      exact absurd hnil.symm (by simp)
    | cons b bs =>
      rw [List.cons_append, List.cons.injEq] at hafter
      rw [← hafter.1] at hhs'
      exact hhs before token keep bs hhs'

theorem of_notMem (h : ∀ token keep, .signedIn token keep ∉ hs) : Issued e hs := by
  intro before token keep after hsplit
  exact absurd (by rw [hsplit]; simp) (h token keep)

theorem course_signIn {keep : Bool} {xs : List Exchange}
    (hxs : ∀ x ∈ xs, x.request.method = .post ∧ x.request.GoesTo e "/authenticate") :
    Issued e ((Purpose.signIn keep).course xs) := by
  induction xs with
  | nil => exact nil
  | cons x xs ih =>
    rw [Purpose.course, List.flatMap_cons]
    refine append ?_ (ih fun y hy => hxs y (List.mem_cons_of_mem x hy))
    cases hsign : x.signIn? with
    | none => exact of_notMem (by simp)
    | some answer =>
      intro before token keep' after h
      obtain ⟨hmethod, hurl⟩ := hxs x List.mem_cons_self
      rw [Option.map_some, Option.toList_some] at h
      rcases before with _ | ⟨first, _ | ⟨second, more⟩⟩
      · cases h
      · rw [List.singleton_append, List.cons.injEq, List.cons.injEq, Happening.signedIn.injEq] at h
        exact ⟨[], x, by rw [← h.1, List.nil_append], hmethod, hurl, answer, hsign, h.2.1.1⟩
      · exact absurd (congrArg List.length h) (by simp)

end Issued

/-- Credentials go to one path only. -/
def signInPath (method : Method) (path : String) : Prop := method = .post ∧ path = "/authenticate"

theorem Client.Course.request_of_mem {σ : Type} [TokenSlot σ] {allowed : Method → String → Prop}
    {c last : Client σ} {hs : List Happening} (h : Course allowed c hs last) {x : Exchange}
    (hx : x ∈ exchangesOf hs) :
    ∃ path, allowed x.request.method path ∧ x.request.GoesTo c.endpoint path := by
  obtain ⟨k, hk, hkx⟩ := List.mem_filterMap.mp hx
  obtain ⟨before, after, hsplit⟩ := List.append_of_mem hk
  cases k with
  | exchanged y =>
    obtain rfl : y = x := Option.some.inj hkx
    rw [hsplit] at h
    exact h.request_of_split.2
  | signedIn token keep => cases hkx
  | signedOut => cases hkx

theorem Command.issued (command : Command) (s : Station) :
    Issued s.console.client.endpoint (command.course s) := by
  by_cases hlogin : ∃ credentials remember, command = .login credentials remember
  · obtain ⟨credentials, remember, rfl⟩ := hlogin
    have hpath : signInPath .post "/authenticate" := ⟨rfl, rfl⟩
    have hserves := s.console.serves_login credentials remember hpath
    obtain ⟨xs, hxs⟩ := (hserves.turn true).andThen_print fun s =>
      if remember ∨ s.terminal.format = .json then []
      else [s.terminal.hint .dimmed "Session not saved; pass --remember to keep it."]
    have hcourse : Client.Course signInPath s.console.client
        ((Command.login credentials remember).purpose.course xs)
        ((Command.login credentials remember).run s).station.console.client := by
      rw [run, Station.login]
      exact hxs
    rw [course_eq hcourse]
    refine Issued.course_signIn fun x hx => ?_
    rw [← Purpose.exchangesOf_course (Command.login credentials remember).purpose xs] at hx
    obtain ⟨path, ⟨hmethod, rfl⟩, hurl⟩ := hcourse.request_of_mem hx
    exact ⟨hmethod, hurl⟩
  · refine Issued.of_notMem fun token keep hmem => ?_
    rw [course] at hmem
    cases command with
    | login credentials remember => exact hlogin ⟨credentials, remember, rfl⟩
    | logout => simp [purpose, Purpose.course] at hmem
    | _ => simp [purpose, Purpose.course] at hmem

theorem Shell.issued (env : Environment) (lines : List String) (s : Station) :
    Issued s.console.client.endpoint (course env s lines) := by
  induction lines generalizing s with
  | nil => exact Issued.nil
  | cons line rest ih =>
    rw [course]
    cases read env line with
    | leave => exact Issued.nil
    | blank => exact ih s
    | refused stop => exact ih s
    | unclosed => exact ih s
    | command c =>
      dsimp only
      have hrest := ih (c.run s).station
      rw [(c.course_run servicePath_call s).endpoint_eq] at hrest
      rw [station_step_command]
      exact (c.issued s).append hrest

namespace Program

theorem issued (world : Surroundings) (s : Station) (command : Command) :
    Issued s.console.client.endpoint (courseAt world s command) := by
  by_cases hshell : command = .shell
  · subst hshell
    have hrest := Shell.issued world.env (Shell.lines world.input) (Command.whoami.run s).station
    rw [(Command.whoami.course_run servicePath_call s).endpoint_eq] at hrest
    exact (Command.whoami.issued s).append hrest
  · rw [courseAt]
    · exact command.issued s
    · exact hshell

/-! ## Where a run starts -/

/-- The base URL that is asked for on the command line, if there is one, and the configuration in
the file at the start of a run. -/
def setup? (world : Surroundings) (words : List String) : Option (Option String × Config) :=
  match Line.readProgram world.env words with
  | .error _ => none
  | .ok invocation =>
    (world.files (pathOf world invocation)).load.toOption.map (invocation.url, ·)

/-- The base URL of a run. -/
def baseUrl? (world : Surroundings) (words : List String) : Option String :=
  (setup? world words).map fun (url, config) => url.getD config.server.baseUrl

/-- The session that the configuration file holds at the start of a run. -/
def keptSession? (world : Surroundings) (words : List String) : Option SessionRecord :=
  (setup? world words).bind (·.2.session)

/-- The configuration file held the token at the start of the run, for the service at this base URL,
and nothing has ended it since. -/
def KeptToken (world : Surroundings) (words : List String) (base : String)
    (before : List Happening) (token : String) : Prop :=
  ∃ own, keptSession? world words = some ⟨token, some own⟩ ∧
    Endpoint.trimSlashes own = Endpoint.trimSlashes base ∧
    (∀ path, ({ baseUrl := own } : Endpoint).resolve path =
      ({ baseUrl := base } : Endpoint).resolve path) ∧
    ∀ k ∈ before, k.endsToken = false

/-- The token was brought by the reply to credentials that were sent to the service at this base
URL, and nothing has ended it since. -/
def IssuedToken (base : String) (before : List Happening) (token : String) : Prop :=
  ∃ earlier x keep later,
    before = earlier ++ .exchanged x :: .signedIn token keep :: later ∧
      x.Issues { baseUrl := base } token ∧ ∀ k ∈ later, k.endsToken = false

/-- The client of a run as it was set up. -/
theorem client_of_start? {world : Surroundings} {words : List String} {s : Station}
    {command : Command} (h : start? world words = some (s, command)) :
    ∃ (url : Option String) (config : Config) (file : ConfigFile),
      setup? world words = some (url, config) ∧ file.load = .ok config ∧
        s.console.client.endpoint.baseUrl = url.getD config.server.baseUrl ∧
        s.console.client.session = .start ⟨file, url.getD config.server.baseUrl⟩ ∧
        s.console.client.wire = { peer := world.peer } := by
  obtain ⟨invocation, hread, _, hstation⟩ := start?_eq_some h
  obtain ⟨client, hclient, rfl⟩ := stationOf_eq_ok hstation
  obtain ⟨config, hload, hbase, hsession, hwire, -⟩ := ConfigFile.client_eq_ok hclient
  refine ⟨invocation.url, config, _, ?_, hload, hbase, hsession, hwire⟩
  rw [setup?, hread]
  dsimp only
  rw [hload]
  rfl

/-- The token with which a run starts is one that the configuration file holds for its base URL. -/
theorem keptToken_of_start {world : Surroundings} {words : List String} {url : Option String}
    {config : Config} {file : ConfigFile} {token : String}
    (hsetup : setup? world words = some (url, config)) (hload : file.load = .ok config)
    (htoken : (Session.start (⟨file, url.getD config.server.baseUrl⟩ : ConfigSlot)).token =
      some token) {before : List Happening} (hbefore : ∀ k ∈ before, k.endsToken = false) :
    KeptToken world words (url.getD config.server.baseUrl) before token := by
  have hslot : (config.session.filter (·.issuedBy (url.getD config.server.baseUrl))).map (·.token) =
      some token := by
    rw [← htoken]
    show _ = ConfigSlot.token? _
    rw [ConfigSlot.token?, hload]
  obtain ⟨session, hsession, rfl⟩ := Option.map_eq_some_iff.mp hslot
  obtain ⟨hsome, hissued⟩ := Option.filter_eq_some_iff.mp hsession
  obtain ⟨token, own⟩ := session
  cases own with
  | none => cases hissued
  | some own =>
    have htrim : Endpoint.trimSlashes own =
        Endpoint.trimSlashes (url.getD config.server.baseUrl) := eq_of_beq hissued
    refine ⟨own, ?_, htrim, fun path => ?_, hbefore⟩
    · rw [keptSession?, hsetup]
      exact hsome
    · rw [Endpoint.resolve, Endpoint.resolve, Endpoint.joined, Endpoint.joined, htrim]

end Program

open Program in
/-- **Token confinement.**  Every request that the peer got in a run belongs to an exchange of the
course of the run.  It is the request of a call, and it goes to the URL of that call behind the base
URL of the run.  A header that authorizes it says the user of that URL, or else a token, and then
one that the configuration file held for that base URL or that the service at that base URL issued
in the course of the run, and that nothing has ended since. -/
theorem token_confined (world : Surroundings) (words : List String) :
    world.peer.answers (run world words).sent = exchangesOf (course world words) ∧
      ∀ before x after, course world words = before ++ .exchanged x :: after →
        ∃ base, baseUrl? world words = some base ∧
          (∃ call : Call, x.request.method = call.method ∧
            x.request.GoesTo { baseUrl := base } call.path) ∧
          ∀ header ∈ x.request.authorizations, x.request.basic = some header ∨
            ∃ token, header = "Bearer " ++ token ∧
              (KeptToken world words base before token ∨ IssuedToken base before token) := by
  rw [sent_run, course]
  cases hstart : start? world words with
  | none => exact ⟨by cases world.peer <;> rfl, fun before x after h => absurd h.symm (by simp)⟩
  | some start =>
    obtain ⟨s, command⟩ := start
    have hall : ∀ call : Call, servicePath call.method call.path := fun call => ⟨call, rfl, rfl⟩
    obtain ⟨last, hcourse, hsent⟩ := course_runAt hall world s command
    obtain ⟨url, config, file, hsetup, hload, hbase, hsession, hwire⟩ := client_of_start? hstart
    -- no other part of an endpoint but its base URL matters to where requests go
    have hgoes {r : Request} {path : String} (h : r.GoesTo s.console.client.endpoint path) :
        r.GoesTo { baseUrl := url.getD config.server.baseUrl } path := by
      rwa [Request.GoesTo, Endpoint.resolve, hbase] at h
    refine ⟨?_, fun before x after hsplit => ?_⟩
    · have hanswers := hcourse.answers_sent_eq (by rw [hwire])
      rw [hwire] at hanswers
      dsimp only
      rw [hsent]
      exact hanswers
    · dsimp only at hsplit
      rw [hsplit] at hcourse
      obtain ⟨hauthorization, path, ⟨call, hmethod, rfl⟩, hurl⟩ := hcourse.request_of_split
      refine ⟨url.getD config.server.baseUrl, by rw [baseUrl?, hsetup]; rfl,
        ⟨call, hmethod.symm, hgoes hurl⟩, fun header hheader => ?_⟩
      rcases List.mem_append.1 hheader with hbasic | hbearer
      · exact .inl (Option.mem_toList.1 hbasic)
      rw [hauthorization, Option.mem_toList] at hbearer
      obtain ⟨token, htoken, rfl⟩ := Option.map_eq_some_iff.mp hbearer
      refine .inr ⟨token, rfl, ?_⟩
      rcases Happening.token_foldl htoken with
        ⟨hfirst, hquiet⟩ | ⟨earlier, keep, later, rfl, hquiet⟩
      · rw [hsession] at hfirst
        exact .inl (keptToken_of_start hsetup hload hfirst hquiet)
      · have hissued := issued world s command
        rw [hsplit, List.append_assoc, List.cons_append] at hissued
        obtain ⟨first, y, rfl, hpost, hauth, hanswer⟩ := hissued _ _ _ _ rfl
        exact .inr ⟨first, y, keep, later, by simp, ⟨hpost, hgoes hauth, hanswer⟩, hquiet⟩

end AccountAdmin
