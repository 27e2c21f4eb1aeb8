/-!
# The tree of commands

A command line leads from the root of a tree to one of its places, a word for each step; below most
places there are parameters, and at some of them the last word is the id of a user.

The lines of the shell follow the same tree without the parameters of the program.

* `Place.children`: the places one step away.
* `Place.parameters`: the parameters known at a place.
-/

namespace AccountAdmin

/-- A named parameter. -/
inductive Parameter where
  | format
  | verbose
  | config
  | url
  | help
  | version
  | username
  | password
  | remember
  | old
  | new
  | again
  | displayName
  | admin
  deriving DecidableEq, Repr

namespace Parameter

/-- The name behind two dashes. -/
def long : Parameter → String
  | format => "format"
  | verbose => "verbose"
  | config => "config"
  | url => "url"
  | help => "help"
  | version => "version"
  | username => "username"
  | password => "password"
  | remember => "remember"
  | old => "old"
  | new => "new"
  | again => "repeat"
  | displayName => "display-name"
  | admin => "admin"

/-- The letter behind one dash. -/
def short? : Parameter → Option Char
  | format => some 'f'
  | verbose => some 'v'
  | help => some 'h'
  | version => some 'V'
  | username => some 'u'
  | password => some 'p'
  | displayName => some 'd'
  | config | url | remember | old | new | again | admin => none

/-- Whether the parameter has no value. -/
def isFlag : Parameter → Bool
  | verbose | help | version | remember | admin => true
  | format | config | url | username | password | old | new | again | displayName => false

/-- Whether a text may be the value of the parameter. -/
def accepts (p : Parameter) (s : String) : Bool :=
  match p with
  | format => s == "table" || s == "json" || s == "plain"
  | config => s != ""
  | _ => true

end Parameter

/-- What a command line is typed into. -/
inductive Prompt where
  | program
  | shell
  deriving DecidableEq, Repr

/-- The parameters that are known everywhere. -/
def Prompt.parameters : Prompt → List Parameter
  | program => [.format, .verbose, .config, .url, .help, .version]
  | shell => [.help]

/-- A place in the tree of commands. -/
inductive Place where
  | root
  | auth
  | login
  | logout
  | status
  | whoami
  | passwd
  | profile
  | user
  | list
  | get
  | create
  | enable
  | disable
  | delete
  | resetPassword
  | config
  | shell
  deriving DecidableEq, Repr

namespace Place

/-- The places one step away, with the words that lead there. -/
def children : Place → List (String × Place)
  | root => [("auth", auth), ("whoami", whoami), ("passwd", passwd), ("profile", profile),
      ("user", user), ("u", user), ("config", config), ("shell", shell)]
  | auth => [("login", login), ("logout", logout), ("status", status)]
  | user => [("list", list), ("ls", list), ("get", get), ("create", create), ("enable", enable),
      ("disable", disable), ("delete", delete), ("reset-password", resetPassword)]
  | _ => []

/-- The place a word leads to. -/
def child? (p : Place) (word : String) : Option Place := p.children.lookup word

/-- The parameters of a place itself. -/
def ownParameters : Place → List Parameter
  | login => [.username, .password, .remember]
  | passwd => [.old, .new, .again]
  | profile => [.displayName]
  | create => [.username, .displayName, .admin]
  | _ => []

/-- The parameters known at a place. -/
def parameters (prompt : Prompt) (p : Place) : List Parameter :=
  p.ownParameters ++ prompt.parameters

/-- Whether the id of a user is asked for. -/
def takesId : Place → Bool
  | get | enable | disable | delete | resetPassword => true
  | _ => false

/-- Whether a command line may end at a place. -/
def isComplete (prompt : Prompt) : Place → Bool
  | root => prompt == .program
  | auth | user => false
  | _ => true

/-- The name of the program at a place. -/
def programName : Place → String
  | root => "lanadmin"
  | auth => "lanadmin-auth"
  | login => "lanadmin-auth-login"
  | logout => "lanadmin-auth-logout"
  | status => "lanadmin-auth-status"
  | whoami => "lanadmin-whoami"
  | passwd => "lanadmin-passwd"
  | profile => "lanadmin-profile"
  | user => "lanadmin-user"
  | list => "lanadmin-user-list"
  | get => "lanadmin-user-get"
  | create => "lanadmin-user-create"
  | enable => "lanadmin-user-enable"
  | disable => "lanadmin-user-disable"
  | delete => "lanadmin-user-delete"
  | resetPassword => "lanadmin-user-reset-password"
  | config => "lanadmin-config"
  | shell => "lanadmin-shell"

end Place

end AccountAdmin
