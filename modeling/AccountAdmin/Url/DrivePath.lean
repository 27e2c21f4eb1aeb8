import AccountAdmin.Url.Path

/-!
# Paths of local files

The path of a `file` URL follows the rules of other paths, except for slashes and drive letters.
Slashes at the front count as one in the end, but they are all there while the dots are resolved.
A drive letter, such as `C:` or `C|`, is never taken away by a double dot; as the first segment,
behind one slash only, it is written with a colon, and a host in front of it is dropped.  The reader
therefore works on the text written so far rather than on a list of segments.

Characters that do not count are still in the text.  One of them ends a first segment `C:` that goes
on behind it: a slash is put in, and the rest of the segment is written as it is, dots included.

* `DrivePath.resolve`: the path for a text, and whether a host in front of it stays.
-/

namespace AccountAdmin.Url.DrivePath

/-- A letter and a colon. -/
def isNormalDrive : List Char → Bool
  | [a, b] => a.isAlpha && b == ':'
  | _ => false

/-- The text up to and with its last slash. -/
def throughLastSlash (s : List Char) : List Char := (s.reverse.dropWhile (· != '/')).reverse

/-- The text after its last slash. -/
def afterLastSlash (s : List Char) : List Char := (s.reverse.takeWhile (· != '/')).reverse

/-- Takes away the last segment of a path, unless it is a drive letter. -/
def shorten (path : List Char) : List Char :=
  if path = [] ∨ isNormalDrive path ∨ isNormalDrive (afterLastSlash path) then path
  else throughLastSlash path

/-- Whether the slash at the end of a path may go: it is neither the first one nor the one after a
drive letter. -/
def lastSlashCanGo (path : List Char) : Bool :=
  let before := path.dropLast
  before.contains '/' && !(Path.startsWithDrive (afterLastSlash before))

/-- The path after a double dot, followed by a slash or by nothing. -/
def up (path : List Char) (slash : Bool) : List Char :=
  let path := if path.getLast? = some '/' ∧ lastSlashCanGo path then path.dropLast else path
  let path := shorten path
  if slash ∧ path.getLast? ≠ some '/' then path ++ ['/'] else path

/-- Writes one segment behind a path. -/
def write (path segment : List Char) (slash : Bool) (host : Bool) : List Char × Bool :=
  let tail := if slash then ['/'] else []
  if Path.isDoubleDot segment then (up path slash, host)
  else if Path.isSingleDot segment then
    (if path.getLast? = some '/' then path else path ++ ['/'], host)
  else if path = ['/'] ∧ Path.isDrive segment then (path ++ segment.take 1 ++ ':' :: tail, false)
  else (path ++ Percent.encode Percent.inPath segment ++ tail, host)

/-- A character that separates segments. -/
def isSlash (c : Char) : Bool := c == '/' || c == '\\'

/-- Whether a segment goes on with a text. -/
def goesOn (s : List Char) : Bool := (s.dropWhile Path.isSkipped).head?.any (!isSlash ·)

/-- Writes the segments of a text behind a path.  `segment` holds the characters of the current one,
and `plain` says that it is written as it is. -/
def writeAll (path segment : List Char) (plain host : Bool) : List Char → List Char × Bool
  | [] =>
    if plain then (path ++ Percent.encode Percent.inPath segment, host)
    else write path segment false host
  | c :: rest =>
    if isSlash c then
      if plain then
        writeAll (path ++ Percent.encode Percent.inPath segment ++ ['/']) [] false host rest
      else
        let (path, host) := write path segment true host
        writeAll path [] false host rest
    else if Path.isSkipped c then
      if path = ['/'] ∧ isNormalDrive segment ∧ goesOn rest then
        writeAll (path ++ segment ++ ['/']) [] true host rest
      else writeAll path segment plain host rest
    else writeAll path (segment ++ [c]) plain host rest

/-- The path for a text, with one slash in front, and whether a host in front of it stays. -/
def resolve (start : List Char) (host : Bool) (s : List Char) : List Char × Bool :=
  let (path, host) := writeAll start [] false host s
  ('/' :: path.dropWhile (· == '/'), host)

end AccountAdmin.Url.DrivePath
