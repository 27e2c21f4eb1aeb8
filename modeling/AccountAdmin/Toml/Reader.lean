import AccountAdmin.Toml.Moment
import AccountAdmin.Toml.Number
import AccountAdmin.Toml.Strings
import AccountAdmin.Toml.Table

/-!
# Reading TOML

A document is a list of lines, each of which is empty, a header or a key with a value; comments may
end any of them.  The document's tables are built as its lines are read (`Entries`), since a line
that adds to the wrong table makes the document as wrong as one that cannot be read.

Nesting is limited: `maxDepth` arrays and braced tables may enclose a place, and a dotted key has at
most as many parts.  The reader of values recurses on that limit and hands itself, one level lower,
to the readers of items and of entries.

* `readValue`: a value.
* `read`: the entries of a whole document.
-/

namespace AccountAdmin.Toml

/-- The greatest number of arrays and braced tables around a place, and of parts of a key. -/
def maxDepth : Nat := 79

/-! ## Keys -/

/-- Whether the character may stand in a key without quotes. -/
def isBare (c : Char) : Bool := c.isAlphanum || c == '_' || c == '-'

/-- A key without dots. -/
def readKeyPart (s : List Char) : Option (String × List Char) :=
  match s.takeWhile isBare with
  | [] => (readQuoted? s).map fun (cs, rest) => (String.ofList cs, rest)
  | cs => some (String.ofList cs, s.dropWhile isBare)

/-- The parts of a key; there may be spaces around each of them. -/
def readKeyParts (s : List Char) : Option (List String × List Char) :=
  match readKeyPart (skipSpaces s) with
  | none => none
  | some (part, rest) =>
    match skipSpaces rest with
    | '.' :: rest =>
      if rest.length < s.length then
        (readKeyParts rest).map fun (parts, rest) => (part :: parts, rest)
      else none
    | rest => some ([part], rest)
termination_by s.length

/-- A key: the parts before the last, which are a path, and the last. -/
structure Key where
  path : List String
  last : String

/-- A key, which may be dotted. -/
def readKey (s : List Char) : Option (Key × List Char) :=
  match readKeyParts s with
  | none => none
  | some (parts, rest) =>
    match parts.getLast? with
    | some last => if parts.length ≤ maxDepth then some (⟨parts.dropLast, last⟩, rest) else none
    | none => none

/-- A key, an equals sign and a value. -/
def readEntry (value : List Char → Option (Value × List Char)) (s : List Char) :
    Option ((Key × Value) × List Char) :=
  match readKey s with
  | some (key, '=' :: rest) => (value (skipSpaces rest)).map fun (v, rest) => ((key, v), rest)
  | _ => none

/-! ## Values -/

/-- The rest of a text after a given word. -/
def readWord : (word s : List Char) → Option (List Char)
  | [], s => some s
  | w :: word, c :: s => if c = w then readWord word s else none
  | _ :: _, [] => none

/-- The items of an array and the text after its closing bracket; a comma may follow the last
item. -/
def readItems (value : List Char → Option (Value × List Char)) (s : List Char) :
    Option (List Value × List Char) :=
  match skipLayout s with
  | ']' :: rest => some ([], rest)
  | start =>
    match value start with
    | none => none
    | some (v, rest) =>
      match skipLayout rest with
      | ']' :: rest => some ([v], rest)
      | ',' :: rest =>
        if rest.length < s.length then
          (readItems value rest).map fun (vs, rest) => (v :: vs, rest)
        else none
      | _ => none
termination_by s.length

/-- The entries of a braced table, at least one, and the text after its closing brace. -/
def readBraced (value : List Char → Option (Value × List Char)) (entries : Entries)
    (s : List Char) : Option (Entries × List Char) :=
  match readEntry value s with
  | none => none
  | some ((key, v), rest) =>
    match entries.put? key.path key.last v with
    | none => none
    | some entries =>
      match skipSpaces rest with
      | '\x7d' :: rest => some (entries, rest)
      | ',' :: rest => if rest.length < s.length then readBraced value entries rest else none
      | _ => none
termination_by s.length

/-- A value, inside of which `depth` arrays and braced tables may be nested. -/
def readValue (depth : Nat) (s : List Char) : Option (Value × List Char) :=
  match s with
  | [] => none
  | 't' :: rest => (readWord ['r', 'u', 'e'] rest).map (.boolean true, ·)
  | 'f' :: rest => (readWord ['a', 'l', 's', 'e'] rest).map (.boolean false, ·)
  | '[' :: rest =>
    match depth with
    | 0 => none
    | depth + 1 => (readItems (readValue depth) rest).map fun (vs, rest) => (.array vs, rest)
  | '\x7b' :: rest =>
    match depth with
    | 0 => none
    | depth + 1 =>
      match skipSpaces rest with
      | '\x7d' :: rest => some (.table .braced [], rest)
      | _ =>
        (readBraced (readValue depth) [] rest).map fun (entries, rest) =>
          (.table .braced entries, rest)
  | c :: rest =>
    if c = '"' ∨ c = '\'' then
      (readString? (c :: rest)).map fun (cs, rest) => (.text (String.ofList cs), rest)
    else
      match readMoment (c :: rest) with
      | some (m, rest) => some (.moment m, rest)
      | none => readNumber (c :: rest)

/-! ## Documents -/

/-- What has been read of a document: its entries, and the path of the table opened last. -/
structure Progress where
  entries : Entries := []
  opened : List String := []

/-- A line with a header, from behind its first bracket. -/
def readHeader (p : Progress) (s : List Char) : Option (Progress × List Char) :=
  match s with
  | '[' :: rest =>
    match readKey rest with
    | some (key, ']' :: ']' :: rest) =>
      match p.entries.openNext? key.path key.last with
      | some entries => (endLine rest).map (⟨entries, key.path ++ [key.last]⟩, ·)
      | none => none
    | _ => none
  | rest =>
    match readKey rest with
    | some (key, ']' :: rest) =>
      match p.entries.open? key.path key.last with
      | some entries => (endLine rest).map (⟨entries, key.path ++ [key.last]⟩, ·)
      | none => none
    | _ => none

/-- A line with a key and a value. -/
def readAssignment (p : Progress) (s : List Char) : Option (Progress × List Char) :=
  match readEntry (readValue maxDepth) s with
  | none => none
  | some ((key, v), rest) =>
    match p.entries.putBelow? p.opened key.path key.last v with
    | some entries => (endLine rest).map (⟨entries, p.opened⟩, ·)
    | none => none

/-- One line. -/
def readLine (p : Progress) (s : List Char) : Option (Progress × List Char) :=
  match skipSpaces s with
  | [] => some (p, [])
  | '[' :: rest => readHeader p rest
  | c :: rest =>
    if c = '#' ∨ c = '\n' ∨ c = '\r' then (endLine (c :: rest)).map (p, ·)
    else readAssignment p (c :: rest)

/-- The lines of a document. -/
def readLines (p : Progress) (s : List Char) : Option Entries :=
  if s.isEmpty then some p.entries
  else
    match readLine p s with
    | none => none
    | some (p, rest) => if rest.length < s.length then readLines p rest else none
termination_by s.length

/-- The text without the byte order mark that it may start with. -/
def skipMark : List Char → List Char
  | c :: rest => if c.toNat = 0xFEFF then rest else c :: rest
  | [] => []

/-- The entries of a whole document. -/
def read (s : String) : Option Entries := readLines {} (skipMark s.toList)

end AccountAdmin.Toml
