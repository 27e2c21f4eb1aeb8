import AccountAdmin.Url.DrivePath
import AccountAdmin.Url.Host

/-!
# URLs

An absolute URL is read into its parts and written in one canonical form.  A *special* scheme, which
is one of six, has a host that is a domain name or an address, takes a backslash for a slash and
leaves its default port out; any other scheme may do without a host, or even without a path of
segments.

Blanks and controls around a text do not belong to it, and tabs and line breaks inside of it are
skipped.  A reader is a plain function on what is left: the authority ends at the first slash,
question mark or number sign, the path at the first question mark or number sign, the query at the
first number sign.  Only the path of a local file is read with the skipped characters in it.

* `Url.parse`: the parts of a text, or the cause why it is refused.
* `Url.text`: the canonical text of the parts.
-/

namespace AccountAdmin

open AccountAdmin.Text

/-- User, host and port of a URL. -/
structure Url.Authority where
  /-- User name and password as written in front of the `@`; empty if there is neither. -/
  userInfo : List Char
  host : Url.Host
  /-- The port, unless it is the default one of the scheme. -/
  port : Option Nat
  deriving DecidableEq, Repr

/-- An absolute URL. -/
structure Url where
  scheme : List Char
  authority : Option Url.Authority
  /-- The path as written. -/
  path : List Char
  /-- The query as written, without its question mark. -/
  query : Option (List Char)
  /-- The fragment as written, without its number sign. -/
  fragment : Option (List Char)
  deriving DecidableEq, Repr

namespace Url

/-! ## Writing -/

/-- The text of an authority. -/
def Authority.text (a : Authority) : List Char :=
  (if a.userInfo = [] then [] else a.userInfo ++ ['@']) ++ a.host.text ++
    (match a.port with
      | none => []
      | some p => ':' :: decimal p)

/-- A part with its mark in front, if there is one. -/
def marked (mark : Char) : Option (List Char) → List Char
  | none => []
  | some s => mark :: s

/-- The text between the scheme and the path.  A path that starts with two slashes would be taken
for an authority, so without one a dot is put in front. -/
def authorityText (authority : Option Authority) (path : List Char) : List Char :=
  match authority with
  | some a => '/' :: '/' :: a.text
  | none => if path.take 2 = ['/', '/'] then ['/', '.'] else []

/-- The canonical text of a URL. -/
def text (u : Url) : List Char :=
  u.scheme ++ ':' :: (authorityText u.authority u.path ++ u.path ++ marked '?' u.query ++
    marked '#' u.fragment)

/-! ## Reading -/

/-- What a scheme says about the rest. -/
inductive Kind where
  | special
  | file
  | other
  deriving DecidableEq, Repr

/-- The kind of a scheme. -/
def kindOf (scheme : List Char) : Kind :=
  if scheme = "file".toList then .file
  else if scheme ∈ ["http".toList, "https".toList, "ws".toList, "wss".toList, "ftp".toList] then
    .special
  else .other

/-- The port that a scheme implies. -/
def defaultPort? (scheme : List Char) : Option Nat :=
  if scheme = "http".toList ∨ scheme = "ws".toList then some 80
  else if scheme = "https".toList ∨ scheme = "wss".toList then some 443
  else if scheme = "ftp".toList then some 21
  else none

/-- A blank or control, as stripped from both ends of a text. -/
def isOuter (c : Char) : Bool := c.toNat ≤ 0x20

/-- A text without the blanks and controls around it. -/
def strip (s : List Char) : List Char :=
  ((s.dropWhile isOuter).reverse.dropWhile isOuter).reverse

/-- The characters of a text that count. -/
def clean (s : List Char) : List Char := s.filter (!Path.isSkipped ·)

/-- A character that may stand in a scheme after its first letter. -/
def isSchemeCharacter (c : Char) : Bool := c.isAlphanum || c == '+' || c == '-' || c == '.'

/-- The scheme in lower case and the text after its colon. -/
def splitScheme? (s : List Char) : Option (List Char × List Char) :=
  match s.takeWhile isSchemeCharacter, s.dropWhile isSchemeCharacter with
  | c :: cs, ':' :: rest => if c.isAlpha then some ((c :: cs).map Char.toLower, rest) else none
  | _, _ => none

/-- Whether a character separates segments in a URL of this kind. -/
def isSlash (kind : Kind) (c : Char) : Bool := c == '/' || (c == '\\' && kind != .other)

/-- Whether a character starts a query or a fragment. -/
def endsPath (c : Char) : Bool := c == '?' || c == '#'

/-- Whether a character ends the authority. -/
def endsAuthority (kind : Kind) (c : Char) : Bool := isSlash kind c || endsPath c

/-- The query and the fragment of the text after the path. -/
def readTail (kind : Kind) (s : List Char) : Option (List Char) × Option (List Char) :=
  let set := if kind = .other then Percent.inQuery else Percent.inSpecialQuery
  let fragment (s : List Char) : Option (List Char) := match s with
    | '#' :: rest => some (Percent.encode Percent.inFragment rest)
    | _ => none
  match s with
  | '?' :: rest =>
    (some (Percent.encode set (rest.takeWhile (· != '#'))), fragment (rest.dropWhile (· != '#')))
  | s => (none, fragment s)

/-- A URL from the parts before its query and the text from there on. -/
def withTail (kind : Kind) (scheme : List Char) (authority : Option Authority)
    (path s : List Char) : Url :=
  let (query, fragment) := readTail kind s
  { scheme, authority, path, query, fragment }

/-- The text before the last `@`, if there is one, and the text after it. -/
def splitUser (s : List Char) : Option (List Char) × List Char :=
  if s.contains '@' then
    let host := (s.reverse.takeWhile (· != '@')).reverse
    (some (s.take (s.length - host.length - 1)), host)
  else (none, s)

/-- User name and password as they are written; the colon of an empty password is left out. -/
def writeUser (s : List Char) : List Char :=
  let name := Percent.encode Percent.inUserInfo (s.takeWhile (· != ':'))
  match s.dropWhile (· != ':') with
  | _ :: c :: password => name ++ ':' :: Percent.encode Percent.inUserInfo (c :: password)
  | _ => name

/-- The text up to the first colon outside of brackets, and the text from there on. -/
def splitPort (bracket : Bool) : List Char → List Char × List Char
  | [] => ([], [])
  | c :: rest =>
    if c = ':' ∧ !bracket then ([], c :: rest)
    else
      let bracket := if c = '[' then true else if c = ']' then false else bracket
      let (host, port) := splitPort bracket rest
      (c :: host, port)

/-- Reads a port up to a delimiter: its value, if it has digits, and the text after it. -/
def readPort (sum : Nat) (seen : Bool) : List Char → Except Fault (Option Nat × List Char)
  | [] => .ok (if seen then some sum else none, [])
  | c :: rest =>
    match digitValue? 10 c with
    | some d =>
      let sum := sum * 10 + d
      if sum < 0x10000 then readPort sum true rest else .error .badPort
    | none =>
      if c = '/' ∨ c = '\\' ∨ endsPath c then .ok (if seen then some sum else none, c :: rest)
      else .error .badPort

/-- The host and port of a text, and what is left of it. -/
def readHostPort (kind : Kind) (scheme s : List Char) :
    Except Fault (Host × Option Nat × List Char) :=
  let (hostText, portText) := splitPort false s
  if hostText = [] ∧ kind ≠ .other then .error .emptyHost
  else
    match if kind = .other then Host.parseOpaque hostText else Host.parse hostText with
    | .error e => .error e
    | .ok host =>
      match portText with
      | _ :: rest =>
        if host.isEmpty then .error .emptyHost
        else
          match readPort 0 false rest with
          | .error e => .error e
          | .ok (port, rest) => .ok (host, if port = defaultPort? scheme then none else port, rest)
      | [] => .ok (host, none, [])

/-- The authority at the front of a text, and the text after it. -/
def readAuthority (kind : Kind) (scheme s : List Char) : Except Fault (Authority × List Char) :=
  let text := s.takeWhile (!endsAuthority kind ·)
  let after := s.dropWhile (!endsAuthority kind ·)
  let (user, hostPort) := splitUser text
  if user = some [] ∧ hostPort = [] ∧ after ≠ [] then .error .emptyHost
  else
    let userInfo := writeUser (user.getD [])
    match readHostPort kind scheme hostPort with
    | .error e => .error e
    | .ok (host, port, rest) =>
      if host.isEmpty ∧ userInfo ≠ [] then .error .emptyHost
      else .ok ({ userInfo, host, port }, rest ++ after)

/-- The path behind an authority.  A special scheme has one in any case. -/
def readPath (kind : Kind) (s : List Char) : List Char :=
  match s with
  | [] => if kind = .other then [] else ['/']
  | c :: rest =>
    let rest := if isSlash kind c then rest else c :: rest
    Path.text (Path.resolve (Path.split (isSlash kind) rest))

/-- A URL with an authority, from the text after the slashes. -/
def parseAfterSlashes (kind : Kind) (scheme s : List Char) : Except Fault Url :=
  match readAuthority kind scheme s with
  | .error e => .error e
  | .ok (authority, rest) =>
    .ok (withTail kind scheme (some authority) (readPath kind (rest.takeWhile (!endsPath ·)))
      (rest.dropWhile (!endsPath ·)))

/-- A URL of a scheme that is not special, from the text after the colon. -/
def parseOther (scheme s : List Char) : Except Fault Url :=
  match s with
  | '/' :: '/' :: rest => parseAfterSlashes .other scheme rest
  | s =>
    let pathText := s.takeWhile (!endsPath ·)
    let path := if pathText.head? = some '/' then readPath .other pathText
      else Percent.encode Percent.nothing pathText
    .ok (withTail .other scheme none path (s.dropWhile (!endsPath ·)))

/-- The host of a local file: none if it is empty or names this machine. -/
def readFileHost (s : List Char) : Except Fault (Option Host) :=
  if s = [] then .ok none
  else
    match Host.parse s with
    | .error e => .error e
    | .ok host => .ok (if host = .domain "localhost".toList then none else some host)

/-- The text after a slash at its front. -/
def dropSlash? (s : List Char) : Option (List Char) :=
  match s.dropWhile Path.isSkipped with
  | c :: rest => if isSlash .file c then some rest else none
  | [] => none

/-- The URL of a local file, from the text after the colon, in which the characters that do not
count still stand. -/
def parseFile (scheme s : List Char) : Except Fault Url :=
  let build (host : Option Host) (path s : List Char) : Url :=
    withTail .file scheme (some ⟨[], host.getD (.domain []), none⟩) path
      (clean (s.dropWhile (!endsPath ·)))
  let here (start s : List Char) : Url :=
    build none (DrivePath.resolve start false (s.takeWhile (!endsPath ·))).1 s
  match dropSlash? s with
  | none => .ok (here ['/'] s)
  | some rest =>
    match dropSlash? rest with
    | none => .ok (here [] s)
    | some rest =>
      let hostText := rest.takeWhile (!endsAuthority .file ·)
      let hostText := if Path.isDrive (clean hostText) then [] else hostText
      let rest := rest.drop hostText.length
      match readFileHost (clean hostText) with
      | .error e => .error e
      | .ok none => .ok (here ['/'] rest)
      | .ok (some h) =>
        let pathText := rest.takeWhile (!endsPath ·)
        let (path, stays) := DrivePath.resolve ['/'] true ((dropSlash? pathText).getD pathText)
        .ok (build (if stays then some h else none) path rest)

/-- The URL that a text stands for. -/
def parseChars (s : List Char) : Except Fault Url :=
  let s := strip s
  match splitScheme? (clean s) with
  | none => .error .noScheme
  | some (scheme, rest) =>
    match kindOf scheme with
    | .special => parseAfterSlashes .special scheme (rest.dropWhile (isSlash .special))
    | .file => parseFile scheme ((s.dropWhile (· != ':')).drop 1)
    | .other => parseOther scheme rest

/-- The URL that a text stands for. -/
def parse (s : String) : Except Fault Url := parseChars s.toList

/-- The canonical text of a URL. -/
def toString (u : Url) : String := String.ofList u.text

end Url

end AccountAdmin
