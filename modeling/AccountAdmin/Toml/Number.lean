import AccountAdmin.Text.Digits
import AccountAdmin.Toml.Value

/-!
# Reading TOML numbers

Digits may be grouped by single underscores.  A whole number without fraction and exponent is a
signed 64-bit integer; in radix two, eight or sixteen it takes no sign.  Everything else is a float,
and one that is too large is refused, unless it is negative.

* `readNumber`: a number.
-/

namespace AccountAdmin.Toml

open AccountAdmin.Text

/-- The digits at the front of a text, an underscore between two of them left out. -/
def readMoreDigits (radix : Nat) : List Char → Option (List Char × List Char)
  | [] => some ([], [])
  | '_' :: d :: rest =>
    if isDigit radix d then (readMoreDigits radix rest).map fun (ds, rest) => (d :: ds, rest)
    else none
  | ['_'] => none
  | c :: rest =>
    if isDigit radix c then (readMoreDigits radix rest).map fun (ds, rest) => (c :: ds, rest)
    else some ([], c :: rest)

/-- At least one digit. -/
def readDigits (radix : Nat) : List Char → Option (List Char × List Char)
  | c :: rest => if isDigit radix c then readMoreDigits radix (c :: rest) else none
  | [] => none

/-- The digits before a point; a zero stands alone. -/
def readWhole : List Char → Option (List Char × List Char)
  | '0' :: rest => some (['0'], rest)
  | s => readDigits 10 s

/-- A sign, if there is one, and whether it is a minus. -/
def readSign : List Char → Bool × List Char
  | '+' :: rest => (false, rest)
  | '-' :: rest => (true, rest)
  | s => (false, s)

/-- The digits after a point, if the text goes on with one. -/
def readFraction : List Char → Option (Option (List Char) × List Char)
  | '.' :: rest => (readDigits 10 rest).map fun (ds, rest) => (some ds, rest)
  | s => some (none, s)

/-- The exponent, if the text goes on with one. -/
def readExponent : List Char → Option (Option Int × List Char)
  | c :: rest =>
    if c = 'e' ∨ c = 'E' then
      let (negative, rest) := readSign rest
      (readDigits 10 rest).map fun (ds, rest) =>
        let n : Int := natOfDigits 10 ds
        (some (if negative then -n else n), rest)
    else some (none, c :: rest)
  | [] => some (none, [])

/-- The value for an integer, if it is in range. -/
def ofInteger? (n : Int) : Option Value :=
  if -0x8000000000000000 ≤ n ∧ n < 0x8000000000000000 then some (.integer n) else none

/-- The value for a float, unless it is too large. -/
def ofFloat? (d : Double) : Option Value :=
  if d = Double.signed false Double.infinity then none else some (.float d)

/-- The value with the given parts. -/
def ofParts? (negative : Bool) (whole : List Char) (fraction : Option (List Char))
    (exponent : Option Int) : Option Value :=
  if fraction.isNone ∧ exponent.isNone then
    let n : Int := natOfDigits 10 whole
    ofInteger? (if negative then -n else n)
  else
    let tail := fraction.getD []
    ofFloat? (.nearest negative (natOfDigits 10 (whole ++ tail)) (exponent.getD 0 - tail.length))

/-- A decimal number behind its sign. -/
def readDecimal (negative : Bool) (s : List Char) : Option (Value × List Char) :=
  match readWhole s with
  | none => none
  | some (whole, s) =>
    match readFraction s with
    | none => none
    | some (fraction, s) =>
      match readExponent s with
      | none => none
      | some (exponent, s) => (ofParts? negative whole fraction exponent).map (·, s)

/-- An integer of another radix, behind the mark of the radix. -/
def readRadix (radix : Nat) (s : List Char) : Option (Value × List Char) :=
  match readDigits radix s with
  | none => none
  | some (ds, s) => (ofInteger? (natOfDigits radix ds)).map (·, s)

/-- The magnitude of a number that is none. -/
def notANumber : Nat := Double.infinity + 0x8000000000000

/-- A number. -/
def readNumber : List Char → Option (Value × List Char)
  | '0' :: 'x' :: rest => readRadix 16 rest
  | '0' :: 'o' :: rest => readRadix 8 rest
  | '0' :: 'b' :: rest => readRadix 2 rest
  | s =>
    match readSign s with
    | (negative, 'i' :: 'n' :: 'f' :: rest) =>
      some (.float (.signed negative Double.infinity), rest)
    | (negative, 'n' :: 'a' :: 'n' :: rest) => some (.float (.signed negative notANumber), rest)
    | (negative, rest) => readDecimal negative rest

end AccountAdmin.Toml
