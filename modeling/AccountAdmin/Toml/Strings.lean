import AccountAdmin.Text.Digits
import AccountAdmin.Toml.Layout

/-!
# Reading TOML strings

There are two kinds of strings, each on one line or on several.  Between double quotes a backslash
starts an escape; between single quotes nothing does.  A string on several lines stands between
three quotes on either side.  A line end right behind the opening quotes does not belong to it, any
other line end counts as a line feed, and a backslash before a line end makes it continue at the
next character that is no blank.

Up to two quotes may stand inside of such a string, and also right before the closing quotes.

* `readOneLine`, `readManyLines`: the rest of a string after its opening quotes.
* `readString?`: a string of any kind.
-/

namespace AccountAdmin.Toml

open AccountAdmin.Text

/-- Puts a character in front of what was read. -/
def prepend (c : Char) (r : Option (List Char × List Char)) : Option (List Char × List Char) :=
  r.map fun (cs, rest) => (c :: cs, rest)

/-- The character that a number of hexadecimal digits name. -/
def readCode (width : Nat) (s : List Char) : Option (Char × List Char) :=
  let ds := s.take width
  let n := natOfDigits 16 ds
  if ds.length = width ∧ ds.all (isDigit 16) ∧ n.isValidChar then some (Char.ofNat n, s.drop width)
  else none

/-- The character that an escape names, read from behind the backslash. -/
def readEscape : List Char → Option (Char × List Char)
  | 'b' :: rest => some (Char.ofNat 8, rest)
  | 't' :: rest => some ('\t', rest)
  | 'n' :: rest => some ('\n', rest)
  | 'f' :: rest => some (Char.ofNat 12, rest)
  | 'r' :: rest => some ('\r', rest)
  | '"' :: rest => some ('"', rest)
  | '\\' :: rest => some ('\\', rest)
  | 'u' :: rest => readCode 4 rest
  | 'U' :: rest => readCode 8 rest
  | _ => none

theorem length_le_of_readCode {width : Nat} {s rest : List Char} {c : Char}
    (h : readCode width s = some (c, rest)) : rest.length ≤ s.length := by
  unfold readCode at h
  dsimp only at h
  split at h
  · simp only [Option.some.injEq, Prod.mk.injEq] at h
    simp [← h.2]
  · cases h

theorem length_lt_of_readEscape {s rest : List Char} {c : Char}
    (h : readEscape s = some (c, rest)) : rest.length < s.length := by
  unfold readEscape at h
  split at h
  case h_8 => exact Nat.lt_succ_of_le (length_le_of_readCode h)
  case h_9 => exact Nat.lt_succ_of_le (length_le_of_readCode h)
  case h_10 => cases h
  all_goals
    simp only [Option.some.injEq, Prod.mk.injEq] at h
    simp [← h.2]

/-- The rest of a string on one line, read from behind its opening quote. -/
def readOneLine (mark : Char) : List Char → Option (List Char × List Char)
  | [] => none
  | c :: rest =>
    if c = mark then some ([], rest)
    else if c = '\\' ∧ mark = '"' then
      match _ : readEscape rest with
      | none => none
      | some (e, rest) => prepend e (readOneLine mark rest)
    else if isPlain c then prepend c (readOneLine mark rest)
    else none
termination_by s => s.length
decreasing_by
  · next h => have := length_lt_of_readEscape h; simp only [List.length_cons]; omega
  · simp

/-- The text from the next character on that is no blank, if nothing but blanks is left of this
line. -/
def continueLine? (s : List Char) : Option (List Char) :=
  (newline? (skipSpaces s)).map skipBlankLines

theorem length_lt_of_continueLine? {s rest : List Char} (h : continueLine? s = some rest) :
    rest.length < s.length := by
  obtain ⟨r, hr, hd⟩ := Option.map_eq_some_iff.1 h
  have := length_lt_of_newline? hr
  have := length_skipSpaces_le s
  have := length_skipBlankLines_le r
  subst hd
  omega

/-- The rest of a string on several lines, read from behind its opening quotes. -/
def readManyLines (mark : Char) : List Char → Option (List Char × List Char)
  | [] => none
  | c :: rest =>
    if c = mark then
      match rest with
      | d :: e :: rest' =>
        if d = mark ∧ e = mark then
          let more := min 2 (rest'.takeWhile (· == mark)).length
          some (List.replicate more mark, rest'.drop more)
        else prepend c (readManyLines mark (d :: e :: rest'))
      | _ => none
    else if c = '\\' ∧ mark = '"' then
      match _ : continueLine? rest with
      | some rest => readManyLines mark rest
      | none =>
        match _ : readEscape rest with
        | none => none
        | some (e, rest) => prepend e (readManyLines mark rest)
    else
      match _ : newline? (c :: rest) with
      | some rest => prepend '\n' (readManyLines mark rest)
      | none => if isPlain c then prepend c (readManyLines mark rest) else none
termination_by s => s.length
decreasing_by
  · simp
  · next h => have := length_lt_of_continueLine? h; simp only [List.length_cons]; omega
  · next h => have := length_lt_of_readEscape h; simp only [List.length_cons]; omega
  · next h => exact length_lt_of_newline? h
  · simp

/-- A string on one line. -/
def readQuoted? : List Char → Option (List Char × List Char)
  | '"' :: rest => readOneLine '"' rest
  | '\'' :: rest => readOneLine '\'' rest
  | _ => none

/-- A string of any kind. -/
def readString? : List Char → Option (List Char × List Char)
  | '"' :: '"' :: '"' :: rest => readManyLines '"' ((newline? rest).getD rest)
  | '\'' :: '\'' :: '\'' :: rest => readManyLines '\'' ((newline? rest).getD rest)
  | s => readQuoted? s

end AccountAdmin.Toml
