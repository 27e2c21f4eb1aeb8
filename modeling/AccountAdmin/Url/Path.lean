import AccountAdmin.Url.Percent

/-!
# Paths

A path is split at its slashes into segments, and the dot segments are resolved from left to right:
a single dot is dropped, a double dot takes the segment before it away unless that is a drive
letter, alone or before a backslash.  When the last segment is a dot segment, an empty one stands in
its place, so the path ends in a slash.

* `Path.split`: the segments of a text.
* `Path.resolve`: the segments left once the dots are resolved.
* `Path.text`: the path with a slash in front of every segment.
-/

namespace AccountAdmin.Url.Path

/-- A character that does not count, wherever in a URL it stands. -/
def isSkipped (c : Char) : Bool := c == '\t' || c == '\n' || c == '\r'

/-- A piece of a path between slashes. -/
abbrev Segment := List Char

/-- The segments of a text, which has at least one. -/
def split (isSlash : Char → Bool) : List Char → List Segment
  | [] => [[]]
  | c :: rest =>
    if isSlash c then [] :: split isSlash rest
    else
      match split isSlash rest with
      | [] => [[c]]
      | s :: segments => (c :: s) :: segments

/-- A text with its ASCII letters in lower case. -/
def lower (s : Segment) : Segment := s.map Char.toLower

/-- A single dot, escaped or not. -/
def isSingleDot (s : Segment) : Bool :=
  lower s == ['.'] || lower s == ['%', '2', 'e']

/-- A double dot, either dot escaped or not. -/
def isDoubleDot (s : Segment) : Bool :=
  lower s == ['.', '.'] || lower s == ['.', '%', '2', 'e'] || lower s == ['%', '2', 'e', '.'] ||
    lower s == ['%', '2', 'e', '%', '2', 'e']

/-- A drive letter: a letter and a colon or a bar. -/
def isDrive : Segment → Bool
  | [a, b] => a.isAlpha && (b == ':' || b == '|')
  | _ => false

/-- Whether a segment is a drive letter or one with a backslash behind it. -/
def startsWithDrive : Segment → Bool
  | a :: b :: rest => isDrive [a, b] && rest.head?.all (· == '\\')
  | _ => false

/-- The segments, in reverse order, that a double dot leaves. -/
def retreat : List Segment → List Segment
  | [] => []
  | s :: before => if startsWithDrive s then s :: before else before

/-- Resolves the dots of the segments to come, with the segments before them in reverse order. -/
def walk (before : List Segment) : List Segment → List Segment
  | [] => before.reverse
  | [s] =>
    if isDoubleDot s then ([] :: retreat before).reverse
    else if isSingleDot s then ([] :: before).reverse
    else (s :: before).reverse
  | s :: next :: rest =>
    if isDoubleDot s then walk (retreat before) (next :: rest)
    else if isSingleDot s then walk before (next :: rest)
    else walk (s :: before) (next :: rest)

/-- The segments left once the dots are resolved. -/
def resolve (segments : List Segment) : List Segment := walk [] segments

/-- A slash and a segment for every segment. -/
def text (segments : List Segment) : List Char :=
  segments.flatMap fun s => '/' :: Percent.encode Percent.inPath s

@[simp] theorem text_append (a b : List Segment) : text (a ++ b) = text a ++ text b := by
  simp [text, List.flatMap_append]

theorem split_ne_nil (isSlash : Char → Bool) (s : List Char) : split isSlash s ≠ [] := by
  induction s with
  | nil => simp [split]
  | cons c rest ih =>
    rw [split]
    split
    · simp
    · split <;> simp

end AccountAdmin.Url.Path
