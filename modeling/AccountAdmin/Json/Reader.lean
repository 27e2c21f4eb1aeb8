import AccountAdmin.Json.Value
import AccountAdmin.Text.Digits

/-!
# Reading JSON

A reader takes a list of characters and gives a value together with the characters after it, or
nothing.  Nothing is said about why a text is refused, because nothing is shown of it.

Nesting is limited: at most `maxDepth` arrays and objects may enclose a place.  The reader of values
recurses on that limit, and hands itself, one level lower, to the readers of items and of fields,
which recurse on the length of the text; no fuel is needed.

Numbers are read in two steps.  A `Numeral` holds the digits of the three parts; its value takes as
many digits into a 64-bit significand as fit, drops the rest of a fraction, counts the rest of a
whole part into the exponent, and leaves the rounding to `Double.ofScientific?`.

* `Json.read`: the value of a whole text.
* `Json.ofBytes`: the value of a message body, which has to be UTF-8.
-/

namespace AccountAdmin.Json

open AccountAdmin.Text

/-- The greatest number of arrays and objects around a place. -/
def maxDepth : Nat := 127

/-- The blanks between tokens: space, tab, line feed, carriage return. -/
def isGap (c : Char) : Bool := c == ' ' || c == '\t' || c == '\n' || c == '\r'

/-- The text from its next token on. -/
def skipGap (s : List Char) : List Char := s.dropWhile isGap

/-! ## Strings -/

/-- The character behind a backslash and a letter, numbered escapes apart. -/
def simpleEscape? (c : Char) : Option Char :=
  if c = '"' ∨ c = '\\' ∨ c = '/' then some c
  else if c = 'b' then some (Char.ofNat 8)
  else if c = 'f' then some (Char.ofNat 12)
  else if c = 'n' then some '\n'
  else if c = 'r' then some '\r'
  else if c = 't' then some '\t'
  else none

/-- The code unit that four hexadecimal digits name. -/
def codeUnit? (a b c d : Char) : Option Nat :=
  if isDigit 16 a && isDigit 16 b && isDigit 16 c && isDigit 16 d then
    some (natOfDigits 16 [a, b, c, d])
  else none

/-- Puts a character in front of the first component. -/
def prepend (c : Char) (r : Option (List Char × List Char)) : Option (List Char × List Char) :=
  r.map fun (cs, rest) => (c :: cs, rest)

/-- The characters of a string up to its closing quote, and the text after the quote.  A code unit
of a surrogate pair stands only before its other half; a control has to be escaped. -/
def readChars : List Char → Option (List Char × List Char)
  | [] => none
  | '"' :: rest => some ([], rest)
  | '\\' :: 'u' :: a :: b :: c :: d :: rest =>
    match codeUnit? a b c d with
    | none => none
    | some high =>
      if high < 0xD800 ∨ 0xDFFF < high then prepend (Char.ofNat high) (readChars rest)
      else if 0xDC00 ≤ high then none
      else
        match rest with
        | '\\' :: 'u' :: e :: f :: g :: h :: rest =>
          match codeUnit? e f g h with
          | none => none
          | some low =>
            if 0xDC00 ≤ low ∧ low ≤ 0xDFFF then
              prepend (Char.ofNat (0x10000 + (high - 0xD800) * 0x400 + (low - 0xDC00)))
                (readChars rest)
            else none
        | _ => none
  | '\\' :: c :: rest =>
    match simpleEscape? c with
    | none => none
    | some e => prepend e (readChars rest)
  | c :: rest => if c.toNat < 32 then none else prepend c (readChars rest)

/-! ## Numbers -/

/-- The parts of a number as written. -/
structure Numeral where
  negative : Bool
  /-- The digits before the point. -/
  whole : List Char
  /-- The digits after the point, if there is one. -/
  fraction : Option (List Char)
  /-- The sign and the digits of the exponent, if there is one. -/
  exponent : Option (Bool × List Char)
  deriving Repr

/-- The greatest significand. -/
def significandMax : Nat := 0xFFFFFFFFFFFFFFFF

/-- Takes digits into a significand while it stays below `2 ^ 64`, and gives the digits left. -/
def absorb (significand : Nat) : List Char → Nat × List Char
  | [] => (significand, [])
  | c :: rest =>
    let next := significand * 10 + (digitValue? 10 c).getD 0
    if next ≤ significandMax then absorb next rest else (significand, c :: rest)

namespace Numeral

/-- The value of the exponent that is written. -/
def writtenExponent (n : Numeral) : Int :=
  match n.exponent with
  | none => 0
  | some (true, ds) => -(natOfDigits 10 ds : Int)
  | some (false, ds) => natOfDigits 10 ds

/-- The double for a numeral; there is none when it is out of range. -/
def double? (n : Numeral) : Option Double :=
  let (s, left) := absorb 0 n.whole
  let fraction := n.fraction.getD []
  let (s, dropped) := absorb s fraction
  let exponent : Int := (left.length : Int) - (fraction.length - dropped.length : Nat)
  Double.ofScientific? n.negative s (exponent + n.writtenExponent)

/-- The value of a numeral.  Without fraction and exponent it is an integer if that is kept as one;
minus zero is a double. -/
def value? (n : Numeral) : Option Json :=
  let whole : Int := natOfDigits 10 n.whole
  let integer := if n.negative then -whole else whole
  if n.fraction.isNone ∧ n.exponent.isNone ∧ integerMin ≤ integer ∧ integer ≤ integerMax ∧
      ¬ (n.negative ∧ whole = 0) then
    some (.integer integer)
  else n.double?.map .double

end Numeral

/-- The digits at the front of a text, at least one, and the text after them. -/
def readDigits (s : List Char) : Option (List Char × List Char) :=
  match s.takeWhile (isDigit 10) with
  | [] => none
  | ds => some (ds, s.dropWhile (isDigit 10))

/-- The digits before the point: a zero stands alone. -/
def readWhole (s : List Char) : Option (List Char × List Char) :=
  match readDigits s with
  | some ('0' :: _ :: _, _) => none
  | r => r

/-- The digits after a point, if the text goes on with one. -/
def readFraction : List Char → Option (Option (List Char) × List Char)
  | '.' :: rest => (readDigits rest).map fun (ds, rest) => (some ds, rest)
  | s => some (none, s)

/-- The sign and the digits of an exponent, if the text goes on with one. -/
def readExponent : List Char → Option (Option (Bool × List Char) × List Char)
  | c :: rest =>
    if c = 'e' ∨ c = 'E' then
      let (negative, rest) := match rest with
        | '+' :: rest => (false, rest)
        | '-' :: rest => (true, rest)
        | rest => (false, rest)
      (readDigits rest).map fun (ds, rest) => (some (negative, ds), rest)
    else some (none, c :: rest)
  | [] => some (none, [])

/-- The parts of the number at the front of a text, which starts with a digit or a minus sign. -/
def readNumeral (s : List Char) : Option (Numeral × List Char) :=
  let (negative, s) := match s with
    | '-' :: rest => (true, rest)
    | s => (false, s)
  match readWhole s with
  | none => none
  | some (whole, s) =>
    match readFraction s with
    | none => none
    | some (fraction, s) =>
      match readExponent s with
      | none => none
      | some (exponent, s) => some (⟨negative, whole, fraction, exponent⟩, s)

/-- The number at the front of a text. -/
def readNumber (s : List Char) : Option (Json × List Char) :=
  match readNumeral s with
  | none => none
  | some (n, rest) => n.value?.map (·, rest)

/-! ## Values -/

/-- The rest of a text after a given word. -/
def readWord : (word s : List Char) → Option (List Char)
  | [], s => some s
  | w :: word, c :: s => if c = w then readWord word s else none
  | _ :: _, [] => none

/-- The items of an array, at least one, and the text after the closing bracket. -/
def readItems (item : List Char → Option (Json × List Char)) (s : List Char) :
    Option (List Json × List Char) :=
  match item s with
  | none => none
  | some (v, rest) =>
    match skipGap rest with
    | ']' :: rest => some ([v], rest)
    | ',' :: rest =>
      if rest.length < s.length then
        (readItems item rest).map fun (vs, rest) => (v :: vs, rest)
      else none
    | _ => none
termination_by s.length

/-- A key, a colon and a value, and the text after them. -/
def readField (item : List Char → Option (Json × List Char)) (s : List Char) :
    Option ((String × Json) × List Char) :=
  match skipGap s with
  | '"' :: rest =>
    match readChars rest with
    | none => none
    | some (key, rest) =>
      match skipGap rest with
      | ':' :: rest => (item rest).map fun (v, rest) => ((String.ofList key, v), rest)
      | _ => none
  | _ => none

/-- The fields of an object, at least one, and the text after the closing brace. -/
def readFields (item : List Char → Option (Json × List Char)) (s : List Char) :
    Option (List (String × Json) × List Char) :=
  match readField item s with
  | none => none
  | some (field, rest) =>
    match skipGap rest with
    | '\x7d' :: rest => some ([field], rest)
    | ',' :: rest =>
      if rest.length < s.length then
        (readFields item rest).map fun (fields, rest) => (field :: fields, rest)
      else none
    | _ => none
termination_by s.length

/-- The value at the front of a text, inside of which `depth` arrays and objects may be nested. -/
def readValue (depth : Nat) (s : List Char) : Option (Json × List Char) :=
  match skipGap s with
  | [] => none
  | 'n' :: rest => (readWord ['u', 'l', 'l'] rest).map (.null, ·)
  | 't' :: rest => (readWord ['r', 'u', 'e'] rest).map (.bool true, ·)
  | 'f' :: rest => (readWord ['a', 'l', 's', 'e'] rest).map (.bool false, ·)
  | '"' :: rest => (readChars rest).map fun (cs, rest) => (.string (String.ofList cs), rest)
  | '[' :: rest =>
    match depth with
    | 0 => none
    | depth + 1 =>
      match skipGap rest with
      | ']' :: rest => some (.array [], rest)
      | _ => (readItems (readValue depth) rest).map fun (vs, rest) => (.array vs, rest)
  | '\x7b' :: rest =>
    match depth with
    | 0 => none
    | depth + 1 =>
      match skipGap rest with
      | '\x7d' :: rest => some (.object [], rest)
      | _ =>
        (readFields (readValue depth) rest).map fun (fields, rest) =>
          (.object (sortFields fields), rest)
  | c :: rest => if c = '-' ∨ isDigit 10 c then readNumber (c :: rest) else none

theorem readValue_quote (depth : Nat) (s : List Char) :
    readValue depth ('"' :: s) =
      (readChars s).map fun (cs, rest) => (.string (String.ofList cs), rest) := by
  rw [readValue]
  rfl

/-- The value of a whole text. -/
def readText (s : List Char) : Option Json :=
  match readValue maxDepth s with
  | none => none
  | some (v, rest) => if skipGap rest = [] then some v else none

/-- The value of a whole text. -/
def read (s : String) : Option Json := readText s.toList

/-- The value of a message body. -/
def ofBytes (bytes : ByteArray) : Option Json :=
  match String.fromUTF8? bytes with
  | none => none
  | some s => read s

end AccountAdmin.Json
