import AccountAdmin.Json.Value
import AccountAdmin.Number.Shortest

/-!
# JSON text

A value has two texts: the compact one, with no blank between its tokens, which goes into request
bodies and error texts, and the indented one, two spaces a level, which goes to the operator.
A string escapes the quote, the backslash and the controls below the space, and nothing else.

* `Json.escape`: what stands for a character inside a string.
* `Json.compact`, `Json.indented`: the two texts.
-/

namespace AccountAdmin.Json

open AccountAdmin.Text

/-- What stands for a character inside a string. -/
def escape (c : Char) : List Char :=
  if c = '"' then ['\\', '"']
  else if c = '\\' then ['\\', '\\']
  else if c.toNat = 8 then ['\\', 'b']
  else if c.toNat = 12 then ['\\', 'f']
  else if c = '\n' then ['\\', 'n']
  else if c = '\r' then ['\\', 'r']
  else if c = '\t' then ['\\', 't']
  else if c.toNat < 32 then '\\' :: 'u' :: hexPadded 4 c.toNat
  else [c]

/-- A string between its quotes. -/
def stringText (s : String) : List Char :=
  '"' :: (s.toList.flatMap escape ++ ['"'])

mutual

/-- The text of a value without blanks between its tokens. -/
def compactText : Json → List Char
  | .array items => '[' :: (compactItems items ++ [']'])
  | .object fields => '\x7b' :: (compactFields fields ++ ['\x7d'])
  | .null => ['n', 'u', 'l', 'l']
  | .bool true => ['t', 'r', 'u', 'e']
  | .bool false => ['f', 'a', 'l', 's', 'e']
  | .integer n => decimalInt n
  | .double d => d.text
  | .string s => stringText s

/-- The items of an array with commas between them. -/
def compactItems : List Json → List Char
  | [] => []
  | [item] => compactText item
  | item :: next :: rest => compactText item ++ ',' :: compactItems (next :: rest)

/-- The fields of an object with commas between them. -/
def compactFields : List (String × Json) → List Char
  | [] => []
  | [(key, value)] => stringText key ++ ':' :: compactText value
  | (key, value) :: next :: rest =>
    stringText key ++ ':' :: (compactText value ++ ',' :: compactFields (next :: rest))

end

/-- The text of a value without blanks between its tokens. -/
def compact (v : Json) : String := String.ofList (compactText v)

/-- A line break and the indentation of a level. -/
def lineBreak (level : Nat) : List Char := '\n' :: List.replicate (2 * level) ' '

mutual

/-- The text of a value at a level of indentation, one item or field a line. -/
def indentedText (level : Nat) : Json → List Char
  | .array [] => ['[', ']']
  | .array (item :: rest) =>
    '[' :: (lineBreak (level + 1) ++ indentedItems (level + 1) (item :: rest) ++
      lineBreak level ++ [']'])
  | .object [] => ['\x7b', '\x7d']
  | .object (field :: rest) =>
    '\x7b' :: (lineBreak (level + 1) ++ indentedFields (level + 1) (field :: rest) ++
      lineBreak level ++ ['\x7d'])
  | .null => ['n', 'u', 'l', 'l']
  | .bool true => ['t', 'r', 'u', 'e']
  | .bool false => ['f', 'a', 'l', 's', 'e']
  | .integer n => decimalInt n
  | .double d => d.text
  | .string s => stringText s

/-- The items of an array, one a line. -/
def indentedItems (level : Nat) : List Json → List Char
  | [] => []
  | [item] => indentedText level item
  | item :: next :: rest =>
    indentedText level item ++ ',' :: (lineBreak level ++ indentedItems level (next :: rest))

/-- The fields of an object, one a line. -/
def indentedFields (level : Nat) : List (String × Json) → List Char
  | [] => []
  | [(key, value)] => stringText key ++ ':' :: ' ' :: indentedText level value
  | (key, value) :: next :: rest =>
    stringText key ++ ':' :: ' ' :: (indentedText level value ++
      ',' :: (lineBreak level ++ indentedFields level (next :: rest)))

end

/-- The text of a value with one item or field a line. -/
def indented (v : Json) : String := String.ofList (indentedText 0 v)

end AccountAdmin.Json
