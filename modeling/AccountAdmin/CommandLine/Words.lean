import AccountAdmin.Text.Blank

/-!
# The words of a line

A line typed by the operator is split into words at blanks.  Between two quotes of one kind
everything, blanks and the other kind of quote included, belongs to the word, and the quotes
themselves do not; so a word may be empty, and quoted and bare parts may follow each other without a
gap.  There are no escapes.

The three functions `Words.between`, `Words.inside` and `Words.quoted` read the rest of a line from
the three places where one can be.  Inside of a word the answer has two parts: what the rest of the
line still adds to this word, and the words after it.
-/

namespace AccountAdmin

/-- A quote was opened and not closed. -/
structure UnterminatedQuote where
  deriving DecidableEq, Repr, Inhabited

/-- The wording of the failure. -/
def UnterminatedQuote.message (_ : UnterminatedQuote) : String := "unterminated quote"

namespace Words

/-- Whether the character opens a quoted part. -/
def isQuote (c : Char) : Bool := c == '"' || c == '\''

/-- The words from the rest of a word and the words after it. -/
def close (r : List Char × List (List Char)) : List (List Char) := r.1 :: r.2

/-- Puts a character in front of the rest of a word. -/
def push (c : Char) (r : List Char × List (List Char)) : List Char × List (List Char) :=
  (c :: r.1, r.2)

mutual

/-- The words of a line from a place outside of any word. -/
def between : List Char → Option (List (List Char))
  | [] => some []
  | c :: rest =>
    if isQuote c then (quoted c rest).map close
    else if Text.isBlank c then between rest
    else (inside rest).map fun r => close (push c r)

/-- The rest of a word, outside of quotes, and the words after it. -/
def inside : List Char → Option (List Char × List (List Char))
  | [] => some ([], [])
  | c :: rest =>
    if isQuote c then quoted c rest
    else if Text.isBlank c then (between rest).map fun words => ([], words)
    else (inside rest).map (push c)

/-- The rest of a word, inside of quotes of one kind, and the words after it. -/
def quoted (mark : Char) : List Char → Option (List Char × List (List Char))
  | [] => none
  | c :: rest => if c = mark then inside rest else (quoted mark rest).map (push c)

end

/-- The words of a line. -/
def ofLine (line : String) : Except UnterminatedQuote (List String) :=
  match between line.toList with
  | none => .error {}
  | some words => .ok (words.map String.ofList)

end Words

end AccountAdmin
