import AccountAdmin.CommandLine.Command
import AccountAdmin.CommandLine.Place

/-!
# Reading command lines

The words of a command line are read from left to right, and each place of the tree of commands
collects the parameters that are given there.  A parameter is given at most once at each place.  Its
value is looked at when the next parameter of the same place comes up or the line ends, and for a
place that is passed through after the places below it; so a request for help further on goes before
a wrong value that is still unlooked at, and after any other mistake.

A parameter that every place knows may be given at several of them; the one furthest down counts,
then a variable of the environment, then the default.

* `Line.readProgram`: what the command line of the program says.
* `Line.readShell`: the command in a line of the shell.
-/

namespace AccountAdmin.Line

/-- Why no command comes out of a command line. -/
inductive Stop where
  /-- Help is asked for. -/
  | help
  /-- The version is asked for. -/
  | version (place : Place)
  /-- The line could not be understood. -/
  | misuse
  deriving DecidableEq, Repr

/-- Something given that has not been looked at yet. -/
inductive Pending where
  /-- A parameter whose value comes next. -/
  | awaited (p : Parameter)
  | value (p : Parameter) (s : String)
  | id (s : String)
  deriving DecidableEq, Repr

/-- What is given at one place. -/
structure Level where
  given : List (Parameter × String) := []
  id : Option UserId := none
  pending : Option Pending := none
  /-- How many words are neither parameters nor values of them. -/
  positions : Nat := 0
  /-- Whether no more parameters come. -/
  closed : Bool := false
  deriving DecidableEq, Repr

namespace Level

/-- Adds a parameter. -/
def give (l : Level) (p : Parameter) (s : String) : Except Stop Level :=
  if (l.given.lookup p).isSome then .error .misuse
  else if p.accepts s then .ok { l with given := l.given ++ [(p, s)], pending := none }
  else .error .misuse

/-- Looks at what has not been looked at yet. -/
def settle (l : Level) : Except Stop Level :=
  match l.pending with
  | none => .ok l
  | some (.awaited _) => .error .misuse
  | some (.value p s) => l.give p s
  | some (.id s) =>
    match UserId.parse s with
    | .ok id => .ok { l with id := some id, pending := none }
    | .error _ => .error .misuse

/-- Takes a parameter with the value that is attached to it, if there is one. -/
def take (l : Level) (place : Place) (p : Parameter) (attached : Option String) :
    Except Stop Level :=
  match p.isFlag, attached with
  | true, some _ => .error .misuse
  | true, none =>
    match l.settle with
    | .error e => .error e
    | .ok l =>
      match p with
      | .help => .error .help
      | .version => .error (.version place)
      | p => l.give p ""
  | false, some s =>
    match l.settle with
    | .error e => .error e
    | .ok l => l.give p s
  | false, none =>
    match l.settle with
    | .error e => .error e
    | .ok l => .ok { l with pending := some (.awaited p) }

/-- Takes a word behind two dashes: a name, perhaps with an equals sign and a value. -/
def takeLong (l : Level) (prompt : Prompt) (place : Place) (s : List Char) : Except Stop Level :=
  let name := String.ofList (s.takeWhile (· != '='))
  let attached := match s.dropWhile (· != '=') with
    | [] => none
    | _ :: value => some (String.ofList value)
  match (place.parameters prompt).find? fun p => p.long == name with
  | none => .error .misuse
  | some p => l.take place p attached

/-- Takes the letters behind one dash; what follows the letter of a parameter with a value is its
value. -/
def takeShort (l : Level) (prompt : Prompt) (place : Place) : List Char → Except Stop Level
  | [] => .ok l
  | c :: rest =>
    match (place.parameters prompt).find? fun p => p.short? == some c with
    | none => .error .misuse
    | some p =>
      if p.isFlag then
        match l.take place p none with
        | .error e => .error e
        | .ok l => takeShort l prompt place rest
      else
        match rest with
        | [] => l.take place p none
        | '=' :: value => l.take place p (some (String.ofList value))
        | value => l.take place p (some (String.ofList value))

/-- Takes a word that is no parameter. -/
def takePosition (l : Level) (place : Place) (s : String) : Except Stop Level :=
  if place.takesId ∧ l.positions = 0 then
    match l.settle with
    | .error e => .error e
    | .ok l => .ok { l with pending := some (.id s), positions := 1 }
  else .error .misuse

/-- Takes a word that leads to no other place. -/
def takeWord (l : Level) (prompt : Prompt) (place : Place) (s : String) : Except Stop Level :=
  if l.closed then l.takePosition place s
  else
    match s.toList with
    | ['-', '-'] => .ok { l with closed := true }
    | '-' :: '-' :: rest => l.takeLong prompt place rest
    | '-' :: c :: rest => l.takeShort prompt place (c :: rest)
    | _ =>
      match l.pending with
      | some (.awaited p) => .ok { l with pending := some (.value p s) }
      | _ => l.takePosition place s

/-- Whether the next word is the value of a parameter. -/
def isAwaiting (l : Level) : Bool :=
  match l.pending with
  | some (.awaited _) => true
  | _ => false

/-- The place that a word leads to from here. -/
def next? (l : Level) (place : Place) (s : String) : Option Place :=
  if l.closed || l.isAwaiting then none else place.child? s

/-- Whether a word asks for help on the places named after it. -/
def asksHelp (l : Level) (place : Place) (s : String) : Bool :=
  s == "help" && !(l.closed || l.isAwaiting || place.children.isEmpty)

/-- Whether the parameters are there that a place needs. -/
def isFilled (l : Level) (env : Environment) (place : Place) : Bool :=
  (place.ownParameters.all fun p =>
    p.isFlag || (l.given.lookup p).isSome || (p == .password && env.password.isSome)) &&
  (!place.takesId || l.id.isSome)

/-- Looks at what is left when the line has ended; a place with `below` has been passed through. -/
def finish (l : Level) (prompt : Prompt) (env : Environment) (place : Place) (below : Bool) :
    Except Stop Level :=
  match l.settle with
  | .error e => .error e
  | .ok l =>
    if prompt = .program ∧ (l.given.lookup .config).isNone ∧ env.config = some "" then
      .error .misuse
    else if (below || place.isComplete prompt) && l.isFilled env place then .ok l
    else .error .misuse

end Level

/-- Help on the place that words lead to. -/
def helpOn (place : Place) : List String → Stop
  | [] => .help
  | word :: rest =>
    match place.child? word with
    | some next => helpOn next rest
    | none => if word = "help" ∧ ¬ place.children.isEmpty ∧ rest = [] then .help else .misuse

/-- The places that the words of a line lead through, outermost first, and what is given there. -/
def readWords (prompt : Prompt) (env : Environment) (place : Place) (l : Level) :
    List String → Except Stop (List (Place × Level))
  | [] => (l.finish prompt env place false).map fun l => [(place, l)]
  | word :: rest =>
    if l.asksHelp place word then .error (helpOn place rest)
    else
      match l.next? place word with
      | some next =>
        match readWords prompt env next {} rest with
        | .error e => .error e
        | .ok inner =>
          (l.finish prompt env place true).map fun l => (place, l) :: inner
      | none =>
        match l.takeWord prompt place word with
        | .error e => .error e
        | .ok l => readWords prompt env place l rest

/-- The value of a parameter at the place furthest down where it is given. -/
def value? (levels : List (Place × Level)) (p : Parameter) : Option String :=
  levels.foldl (fun found level => (level.2.given.lookup p).or found) none

/-- The command of a place. -/
def command? (env : Environment) (place : Place) (l : Level) : Option Command :=
  let text p := (l.given.lookup p).getD ""
  let isSet p := (l.given.lookup p).isSome
  match place with
  | .root | .auth | .user => none
  | .login =>
    let password := (l.given.lookup .password).or env.password
    some (.login ⟨text .username, password.getD ""⟩ (isSet .remember))
  | .logout => some .logout
  | .status => some .status
  | .whoami => some .whoami
  | .passwd => some (.passwd (text .old) (text .new) (text .again))
  | .profile => some (.profile (text .displayName))
  | .list => some .listUsers
  | .get => l.id.map .getUser
  | .create => some (.createUser ⟨text .username, text .displayName, isSet .admin⟩)
  | .enable => l.id.map (.setUserEnabled · true)
  | .disable => l.id.map (.setUserEnabled · false)
  | .delete => l.id.map .deleteUser
  | .resetPassword => l.id.map .resetPassword
  | .config => some .config
  | .shell => some .shell

/-- The command of the place furthest down. -/
def lastCommand? (env : Environment) (levels : List (Place × Level)) : Option Command :=
  match levels.getLast? with
  | none => none
  | some (place, l) => command? env place l

/-- The format with a name. -/
def formatOf : Option String → Format
  | some "table" => .table
  | some "json" => .json
  | _ => .plain

/-- What the command line of the program says. -/
def readProgram (env : Environment) (words : List String) : Except Stop Invocation :=
  (readWords .program env .root {} words).map fun levels =>
    { format := formatOf (value? levels .format)
      verbose := (value? levels .verbose).isSome
      config := (value? levels .config).or env.config
      url := (value? levels .url).or env.url
      command := lastCommand? env levels }

/-- The command in a line of the shell. -/
def readShell (env : Environment) (words : List String) : Except Stop Command :=
  match readWords .shell env .root {} words with
  | .error e => .error e
  | .ok levels =>
    match lastCommand? env levels with
    | some command => .ok command
    | none => .error .misuse

end AccountAdmin.Line
