import AccountAdmin.Text.Digits
import AccountAdmin.Toml.Value

/-!
# Writing TOML

A document is written as a list of sections, each with a header and its entries below it, and a
blank line between two sections.

A string is written in the plainest form that shows it as it is.  These are, in order: between
double quotes; between single quotes; between three double quotes; between three single quotes.  A
text that fits none of them, since it holds a control or too many quotes of either kind, is written
between double quotes with escapes, three on either side if it has more than one line.  After three
opening quotes a text with more than one line starts on a line of its own.

* `Style`, `styleOf`: the form for a text.
* `quoted`: the text in that form.
* `document`: a document.
-/

namespace AccountAdmin.Toml

open AccountAdmin.Text

/-- A form of strings. -/
inductive Style where
  | basic
  | literal
  | longBasic
  | longLiteral
  deriving DecidableEq, Repr

/-- Whether the character can only be written as an escape. -/
def isControl (c : Char) : Bool :=
  (c.toNat < 0x20 && c != '\t' && c != '\n') || c.toNat == 0x7F

/-- The length of the longest run of a character, where `run` of them come before the text. -/
def longestRunFrom (mark : Char) (run : Nat) : List Char → Nat
  | [] => run
  | c :: rest =>
    if c = mark then longestRunFrom mark (run + 1) rest else max run (longestRunFrom mark 0 rest)

/-- The length of the longest run of a character. -/
def longestRun (mark : Char) (s : List Char) : Nat := longestRunFrom mark 0 s

/-- The form for a text. -/
def styleOf (s : List Char) : Style :=
  let controls := s.any isControl
  let backslash := s.contains '\\'
  let lines := s.contains '\n'
  let double := longestRun '"' s
  let single := longestRun '\'' s
  if !controls && !backslash && !lines && double == 0 then .basic
  else if !controls && !lines && single == 0 then .literal
  else if !controls && !backslash && double ≤ 2 then .longBasic
  else if !controls && single ≤ 2 then .longLiteral
  else if lines then .longBasic
  else .basic

/-- What stands for a character between double quotes, quotes apart. -/
def escapeChar (long : Bool) (c : Char) : List Char :=
  if c = Char.ofNat 8 then ['\\', 'b']
  else if c = '\t' then ['\\', 't']
  else if c = '\n' then (if long then ['\n'] else ['\\', 'n'])
  else if c = Char.ofNat 12 then ['\\', 'f']
  else if c = '\r' then ['\\', 'r']
  else if c = '\\' then ['\\', '\\']
  else if c.toNat < 0x20 ∨ c.toNat = 0x7F then '\\' :: 'u' :: upperHex (hexPadded 4 c.toNat)
  else [c]

/-- What stands for a text between double quotes, where `run` quotes come before it.  A quote is
escaped when it would make the run too long. -/
def escapeFrom (long : Bool) (run : Nat) : List Char → List Char
  | [] => []
  | '"' :: rest =>
    if run < (if long then 2 else 0) then '"' :: escapeFrom long (run + 1) rest
    else '\\' :: '"' :: escapeFrom long 0 rest
  | c :: rest => escapeChar long c ++ escapeFrom long 0 rest

/-- A text between three quotes on either side, the inner part as it is to be written. -/
def between (mark : Char) (s inner : List Char) : List Char :=
  [mark, mark, mark] ++ (if s.contains '\n' then ['\n'] else []) ++ inner ++ [mark, mark, mark]

/-- A text in a given form. -/
def quotedAs (s : List Char) : Style → List Char
  | .basic => '"' :: (escapeFrom false 0 s ++ ['"'])
  | .literal => '\'' :: (s ++ ['\''])
  | .longBasic => between '"' s (escapeFrom true 0 s)
  | .longLiteral => between '\'' s s

/-- A text in the form for it. -/
def quoted (s : String) : List Char := quotedAs s.toList (styleOf s.toList)

/-- A value that stands on a line of its own. -/
inductive Scalar where
  | text (s : String)
  | count (n : Nat)
  deriving DecidableEq, Repr

/-- The text of a value. -/
def Scalar.written : Scalar → List Char
  | text s => quoted s
  | count n => decimal n

/-- A header and the entries below it. -/
structure Section where
  name : String
  entries : List (String × Scalar)

/-- The line of an entry. -/
def entryLine (entry : String × Scalar) : List Char :=
  entry.1.toList ++ [' ', '=', ' '] ++ entry.2.written ++ ['\n']

/-- The lines of a section, whose name needs no quotes. -/
def Section.lines (s : Section) : List Char :=
  '[' :: (s.name.toList ++ [']', '\n'] ++ s.entries.flatMap entryLine)

/-- A document. -/
def document (sections : List Section) : String :=
  String.ofList (['\n'].intercalate (sections.map Section.lines))

end AccountAdmin.Toml
