import AccountAdmin.Proofs.Program.Course

/-!
# The turns of a run

A run of the program is one command at one station, or it is a shell, which asks for the current
user and then runs commands line by line, each at the station that the last one has left.
`Program.turns` lists the commands of a run with their stations.

Of every turn of a run two things can be said.  What it prints is a part of what the run prints
(`Program.pieces_of_mem_turns`), and the run reaches its station by a part of its course
(`Program.reaches_of_mem_turns`): that part takes the client from where it was set up to the
station.
-/

namespace AccountAdmin

variable {allowed : Method → String → Prop}

/-! ## The shell -/

namespace Shell

/-- The commands of the lines of a shell, and the stations at which they are run. -/
def turns (env : Environment) (s : Station) : List String → List (Station × Command)
  | [] => []
  | line :: rest =>
    match read env line with
    | .leave => []
    | .command c => (s, c) :: turns env (step s (.command c)).2 rest
    | .blank | .refused _ | .unclosed => turns env s rest

variable {env : Environment} {s t : Station} {c : Command} {lines : List String}

theorem course_of_mem_turns (hall : ∀ call : Call, allowed call.method call.path)
    (h : (t, c) ∈ turns env s lines) :
    ∃ before after, course env s lines = before ++ after ∧
      Client.Course allowed s.console.client before t.console.client := by
  induction lines generalizing s with
  | nil => cases h
  | cons line rest ih =>
    rw [turns] at h
    rw [course]
    cases hread : read env line with
    | leave =>
      rw [hread] at h
      cases h
    | blank =>
      rw [hread] at h
      exact ih h
    | refused stop =>
      rw [hread] at h
      exact ih h
    | unclosed =>
      rw [hread] at h
      exact ih h
    | command d =>
      rw [hread] at h
      dsimp only at h ⊢
      rcases List.mem_cons.1 h with heq | h
      · obtain ⟨rfl, rfl⟩ := Prod.mk.inj heq
        exact ⟨[], _, rfl, .nil _⟩
      · obtain ⟨before, after, hsplit, hcourse⟩ := ih h
        rw [station_step_command] at hcourse
        refine ⟨d.course s ++ before, after, ?_, (d.course_run hall s).trans hcourse⟩
        rw [hsplit, List.append_assoc]

/-- What a command prints, if it is not a shell in a shell. -/
theorem pieces_step_command (hc : c ≠ .shell) (s : Station) :
    ∃ after, (step s (.command c)).1 = (c.run s).pieces ++ after := by
  rw [step]
  · exact ⟨_, rfl⟩
  · exact hc

theorem pieces_of_mem_turns (hc : c ≠ .shell) (h : (t, c) ∈ turns env s lines) :
    ∃ before after, (loop env s lines).1 = before ++ ((c.run t).pieces ++ after) := by
  induction lines generalizing s with
  | nil => cases h
  | cons line rest ih =>
    -- whatever a line comes to, the lines behind it print behind it
    have hlater (reading : Reading) (hmem : (t, c) ∈ turns env (step s reading).2 rest) :
        ∃ before after, prompt s.console.user ::
            ((step s reading).1 ++ (loop env (step s reading).2 rest).1) =
          before ++ ((c.run t).pieces ++ after) := by
      obtain ⟨before, after, hloop⟩ := ih hmem
      refine ⟨prompt s.console.user :: ((step s reading).1 ++ before), after, ?_⟩
      rw [hloop, List.cons_append, List.append_assoc]
    rw [turns] at h
    rw [loop]
    cases hread : read env line with
    | leave =>
      rw [hread] at h
      cases h
    | blank =>
      rw [hread] at h
      exact hlater .blank h
    | refused stop =>
      rw [hread] at h
      exact hlater (.refused stop) h
    | unclosed =>
      rw [hread] at h
      exact hlater .unclosed h
    | command d =>
      rw [hread] at h
      dsimp only at h ⊢
      rcases List.mem_cons.1 h with heq | h
      · obtain ⟨rfl, rfl⟩ := Prod.mk.inj heq
        obtain ⟨more, hmore⟩ := pieces_step_command hc t
        refine ⟨[prompt t.console.user], more ++ (loop env (step t (.command c)).2 rest).1, ?_⟩
        rw [hmore, List.append_assoc]
        rfl
      · exact hlater (.command d) h

end Shell

/-! ## The program -/

namespace Program

/-- The commands of a run at a station, and the stations at which they are run. -/
def turnsAt (world : Surroundings) (s : Station) (command : Command) : List (Station × Command) :=
  match command with
  | .shell =>
    (s, .whoami) ::
      Shell.turns world.env (Command.whoami.run s).station (Shell.lines world.input)
  | command => [(s, command)]

/-- The commands of a run, and the stations at which they are run. -/
def turns (world : Surroundings) (words : List String) : List (Station × Command) :=
  match start? world words with
  | none => []
  | some (s, command) => turnsAt world s command

variable {world : Surroundings} {words : List String} {s t : Station} {c command : Command}

theorem course_of_mem_turnsAt (hall : ∀ call : Call, allowed call.method call.path)
    (h : (t, c) ∈ turnsAt world s command) :
    ∃ before after, courseAt world s command = before ++ after ∧
      Client.Course allowed s.console.client before t.console.client := by
  by_cases hshell : command = .shell
  · subst hshell
    rw [turnsAt] at h
    rw [courseAt]
    rcases List.mem_cons.1 h with heq | h
    · obtain ⟨rfl, rfl⟩ := Prod.mk.inj heq
      exact ⟨[], _, rfl, .nil _⟩
    · obtain ⟨before, after, hsplit, hcourse⟩ := Shell.course_of_mem_turns hall h
      refine ⟨Command.whoami.course s ++ before, after, ?_,
        (Command.whoami.course_run hall s).trans hcourse⟩
      rw [hsplit, List.append_assoc]
  · rw [turnsAt] at h
    · obtain ⟨rfl, rfl⟩ := Prod.mk.inj (List.mem_singleton.1 h)
      exact ⟨[], _, rfl, .nil _⟩
    · exact hshell

/-- The run gets to a station by a part of its course, from the front on. -/
def Reaches (world : Surroundings) (words : List String) (before : List Happening) (s : Station) :
    Prop :=
  ∃ first command after, start? world words = some (first, command) ∧
    course world words = before ++ after ∧
    Client.Course servicePath first.console.client before s.console.client

/-- A run gets to the station of each of its turns. -/
theorem reaches_of_mem_turns (h : (t, c) ∈ turns world words) :
    ∃ before, Reaches world words before t := by
  rw [turns] at h
  cases hstart : start? world words with
  | none =>
    rw [hstart] at h
    cases h
  | some start =>
    obtain ⟨first, command⟩ := start
    rw [hstart] at h
    obtain ⟨before, after, hsplit, hcourse⟩ := course_of_mem_turnsAt servicePath_call h
    refine ⟨before, first, command, after, hstart, ?_, hcourse⟩
    rw [course, hstart]
    exact hsplit

/-- A shell prints what the turn of its first command prints, and then what its lines print. -/
theorem pieces_runAt_shell (world : Surroundings) (s : Station) :
    (runAt world s .shell).pieces = (Command.whoami.run s).pieces ++
      (Shell.loop world.env (Command.whoami.run s).station (Shell.lines world.input)).1 := by
  rw [runAt_shell]
  rfl

theorem pieces_of_mem_turnsAt (hc : c ≠ .shell) (h : (t, c) ∈ turnsAt world s command) :
    ∃ before after, (runAt world s command).pieces = before ++ ((c.run t).pieces ++ after) := by
  by_cases hshell : command = .shell
  · subst hshell
    rw [turnsAt] at h
    rw [pieces_runAt_shell]
    rcases List.mem_cons.1 h with heq | h
    · obtain ⟨rfl, rfl⟩ := Prod.mk.inj heq
      exact ⟨[], _, (List.nil_append (_ ++ _)).symm⟩
    · obtain ⟨before, after, hloop⟩ := Shell.pieces_of_mem_turns hc h
      refine ⟨(Command.whoami.run s).pieces ++ before, after, ?_⟩
      rw [hloop, List.append_assoc]
  · rw [turnsAt] at h
    · obtain ⟨rfl, rfl⟩ := Prod.mk.inj (List.mem_singleton.1 h)
      refine ⟨[], Shell.endingPieces t.terminal (c.run t).ending, ?_⟩
      rw [List.nil_append, runAt_of_ne_shell world t hshell]
      rfl
    · exact hshell

/-- What a turn prints is a part of what the run prints. -/
theorem pieces_of_mem_turns (hc : c ≠ .shell) (h : (t, c) ∈ turns world words) :
    ∃ before after, (run world words).pieces = before ++ ((c.run t).pieces ++ after) := by
  rw [turns] at h
  cases hstart : start? world words with
  | none =>
    rw [hstart] at h
    cases h
  | some start =>
    obtain ⟨first, command⟩ := start
    rw [hstart] at h
    rw [run_of_start? hstart]
    exact pieces_of_mem_turnsAt hc h

end Program

end AccountAdmin
