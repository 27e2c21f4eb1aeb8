import AccountAdmin.Proofs.Program.Course

/-!
# What a command tells the terminal

A command prints in two ways.  The actions that it performs give rise to events, and the terminal
renders each of them, in order.  A few commands print something of their own: the hint behind a
login that is not remembered, the status and the configuration.

A turn keeps only what is printed.  `Command.told` lists the events again, and `Command.own` what
the command prints without one; `Command.pieces_run` says that the two make up what it prints.  So
whatever is to be said of the output of a command can be said of its events, and a claim about
where a failure or a notice is shown has something to be about.
-/

namespace AccountAdmin

/-- An event, and whether the current user is to be echoed. -/
structure Telling where
  echo : Bool
  event : Event

/-- What the terminal prints when it is told something. -/
def Terminal.show (t : Terminal) (x : Telling) : List Piece := t.render x.echo x.event

/-- What an outcome tells the terminal. -/
def Outcome.told {σ α : Type} (o : Outcome σ α) (echo : Bool) : List Telling :=
  o.events.map (⟨echo, ·⟩)

/-! ## Turns -/

namespace Station

variable {α : Type} (s : Station)

theorem pieces_turn (echo : Bool) (o : Outcome ConfigSlot α) :
    (s.turn echo o).pieces = (o.told echo).flatMap s.terminal.show := by
  rw [turn, Outcome.told, List.flatMap_map]
  rfl

/-- The turn of an action that succeeds goes on. -/
theorem turn_andThen_of_ok {o : Outcome ConfigSlot α} {a : α} (h : o.result = .ok a) (echo : Bool)
    (next : Station → Turn) :
    (s.turn echo o).andThen next = ⟨(next { s with console := o.console }).ending,
      (s.turn echo o).pieces ++ (next { s with console := o.console }).pieces,
      (next { s with console := o.console }).station⟩ := by
  rw [Turn.andThen, turn, h]

/-- The turn of an action that fails is over. -/
theorem turn_andThen_of_error {o : Outcome ConfigSlot α} {e : Error} (h : o.result = .error e)
    (echo : Bool) (next : Station → Turn) : (s.turn echo o).andThen next = s.turn echo o := by
  rw [Turn.andThen, turn, h]

/-- What is told while the current user is fetched, which is not echoed, and what is told then. -/
def toldWithUser (next : Console ConfigSlot → Outcome ConfigSlot α) : List Telling :=
  s.console.refreshUser.told false ++
    match s.console.refreshUser.result with
    | .ok _ => (next s.console.refreshUser.console).told true
    | .error _ => []

/-- What is told while a record is fetched and something is done with it. -/
def toldWithRecord (id : UserId) (next : UserRecord → Console ConfigSlot → Outcome ConfigSlot α) :
    List Telling :=
  ((s.console.perform (.get id)).andThen next).told true

theorem pieces_withUser (next : Console ConfigSlot → Outcome ConfigSlot α) :
    (s.withUser fun s => s.turn true (next s.console)).pieces =
      (s.toldWithUser next).flatMap s.terminal.show := by
  rw [withUser, toldWithUser, List.flatMap_append, ← s.pieces_turn]
  cases hresult : s.console.refreshUser.result with
  | ok u =>
    rw [s.turn_andThen_of_ok hresult]
    dsimp only
    rw [pieces_turn _ true]
  | error e =>
    rw [s.turn_andThen_of_error hresult, List.flatMap_nil, List.append_nil]

end Station

/-! ## Commands -/

namespace Command

/-- What a command tells the terminal. -/
def told (s : Station) : Command → List Telling
  | login credentials remember => (s.console.login credentials remember).told true
  | logout => s.console.logout.told true
  | status | config | shell => []
  | whoami => s.console.refreshUser.told true
  | passwd old new again => s.toldWithUser fun c => c.changePassword old new again
  | profile displayName => s.toldWithUser fun c => c.updateProfile displayName
  | listUsers => s.console.listUsers.told true
  | getUser id => (s.console.showUser id).told true
  | createUser user => (s.console.addUser user).told true
  | setUserEnabled id enabled => s.toldWithRecord id fun u c => c.setUserEnabled u enabled
  | deleteUser id => s.toldWithRecord id fun u c => c.deleteUser u
  | resetPassword id => s.toldWithRecord id fun u c => c.resetUserPassword u

/-- What a command prints without having been told to. -/
def own (s : Station) : Command → List Piece
  | login credentials remember =>
    match (s.console.login credentials remember).result with
    | .ok _ =>
      if remember ∨ s.terminal.format = .json then []
      else [s.terminal.hint .dimmed "Session not saved; pass --remember to keep it."]
    | .error _ => []
  | status => s.status.pieces
  | config => s.showConfig.pieces
  | logout | whoami | passwd _ _ _ | profile _ | listUsers | getUser _ | createUser _
  | setUserEnabled _ _ | deleteUser _ | resetPassword _ | shell => []

/-- A command prints what it tells the terminal and what it prints on its own. -/
theorem pieces_run (command : Command) (s : Station) :
    (command.run s).pieces = (command.told s).flatMap s.terminal.show ++ command.own s := by
  cases command with
  | login credentials remember =>
    rw [run, Station.login, told, own, ← s.pieces_turn]
    cases hresult : (s.console.login credentials remember).result with
    | ok u =>
      rw [s.turn_andThen_of_ok hresult]
      rfl
    | error e => rw [s.turn_andThen_of_error hresult, List.append_nil]
  | status | config | shell => rfl
  | passwd old new again =>
    rw [run, told, own, List.append_nil]
    exact s.pieces_withUser fun c => c.changePassword old new again
  | profile displayName =>
    rw [run, told, own, List.append_nil]
    exact s.pieces_withUser fun c => c.updateProfile displayName
  | _ =>
    rw [run, ← List.append_nil (Turn.pieces _)]
    exact congrArg (· ++ []) (s.pieces_turn true _)

end Command

end AccountAdmin
