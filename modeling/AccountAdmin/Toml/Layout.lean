/-!
# The layout of a TOML document

What stands between the tokens: spaces and tabs, comments and line ends.  Inside of a bracketed
array all of them mean nothing; elsewhere a line end ends something.  A carriage return is only ever
half of a line end, and no other control but the tab may occur anywhere.

* `skipSpaces`, `skipBlankLines`, `skipLayout`: the text from its next token on.
* `endLine`: the text after the end of a line.
-/

namespace AccountAdmin.Toml

/-- Whether the character may stand in a comment or between quotes. -/
def isPlain (c : Char) : Bool := c == '\t' || (0x20 ≤ c.toNat && c.toNat != 0x7F)

/-- Whether the character is a space or a tab. -/
def isSpace (c : Char) : Bool := c == ' ' || c == '\t'

/-- The text from its first character that is neither a space nor a tab. -/
def skipSpaces (s : List Char) : List Char := s.dropWhile isSpace

/-- The text after the line end that it starts with. -/
def newline? : List Char → Option (List Char)
  | '\n' :: rest => some rest
  | '\r' :: '\n' :: rest => some rest
  | _ => none

/-- The text after the comment that it starts with, if there is one. -/
def skipComment : List Char → List Char
  | '#' :: rest => rest.dropWhile isPlain
  | s => s

/-- The text after the end of a line: a comment perhaps, and then a line end or the end of the
text. -/
def endLine (s : List Char) : Option (List Char) :=
  match skipComment (skipSpaces s) with
  | [] => some []
  | rest => newline? rest

theorem length_lt_of_newline? {s rest : List Char} (h : newline? s = some rest) :
    rest.length < s.length := by
  unfold newline? at h
  split at h
  · injection h with h; subst h; simp only [List.length_cons]; omega
  · injection h with h; subst h; simp only [List.length_cons]; omega
  · cases h

theorem length_skipSpaces_le (s : List Char) : (skipSpaces s).length ≤ s.length :=
  (List.dropWhile_sublist isSpace).length_le

theorem length_skipComment_le (s : List Char) : (skipComment s).length ≤ s.length := by
  unfold skipComment
  split
  · exact Nat.le_succ_of_le (List.dropWhile_sublist isPlain).length_le
  · exact Nat.le_refl _

/-- The text from its next character on, spaces and line ends left out. -/
def skipBlankLines (s : List Char) : List Char :=
  match _ : newline? (skipSpaces s) with
  | some rest => skipBlankLines rest
  | none => skipSpaces s
termination_by s.length
decreasing_by
  next h =>
    have := length_lt_of_newline? h
    have := length_skipSpaces_le s
    omega

theorem length_skipBlankLines_le (s : List Char) : (skipBlankLines s).length ≤ s.length := by
  induction s using skipBlankLines.induct with
  | case1 s rest h ih =>
    rw [skipBlankLines]
    have := length_lt_of_newline? h
    have := length_skipSpaces_le s
    split
    · next h' => rw [h] at h'; cases h'; omega
    · exact length_skipSpaces_le s
  | case2 s h =>
    rw [skipBlankLines]
    split
    · next h' => rw [h] at h'; cases h'
    · exact length_skipSpaces_le s

/-- The text from its next token on, spaces, comments and line ends left out.  A comment without a
line end after it is left in. -/
def skipLayout (s : List Char) : List Char :=
  match _ : newline? (skipComment (skipSpaces s)) with
  | some rest => skipLayout rest
  | none => skipSpaces s
termination_by s.length
decreasing_by
  next h =>
    have := length_lt_of_newline? h
    have := length_skipComment_le (skipSpaces s)
    have := length_skipSpaces_le s
    omega

end AccountAdmin.Toml
