import AccountAdmin.Text.Digits
import AccountAdmin.Toml.Value

/-!
# Reading TOML dates and times

A date is year, month and day; a time is hour, minute, second and perhaps a fraction.  A date may be
followed by a time, behind a letter T or a space, and that by an offset.  Dates follow the calendar;
a second may be a leap second.

* `readMoment`: a date, a time or both.
-/

namespace AccountAdmin.Toml

open AccountAdmin.Text

/-- A number of exactly so many digits. -/
def readFixed (width : Nat) (s : List Char) : Option (Nat × List Char) :=
  let ds := s.take width
  if ds.length = width ∧ ds.all (isDigit 10) then some (natOfDigits 10 ds, s.drop width) else none

/-- A number of two digits within bounds. -/
def readPair (least greatest : Nat) (s : List Char) : Option (Nat × List Char) :=
  (readFixed 2 s).filter fun (n, _) => least ≤ n ∧ n ≤ greatest

/-- A given character. -/
def readMark (mark : Char) : List Char → Option (List Char)
  | c :: rest => if c = mark then some rest else none
  | [] => none

/-- The number of days of a month. -/
def daysIn (year month : Nat) : Nat :=
  if month = 2 then (if year % 4 = 0 ∧ (year % 100 ≠ 0 ∨ year % 400 = 0) then 29 else 28)
  else if month = 4 ∨ month = 6 ∨ month = 9 ∨ month = 11 then 30
  else 31

/-- A date. -/
def readDate (s : List Char) : Option (Date × List Char) := do
  let (year, s) ← readFixed 4 s
  let s ← readMark '-' s
  let (month, s) ← readPair 1 12 s
  let s ← readMark '-' s
  let (day, s) ← readPair 1 (daysIn year month) s
  return (⟨year, month, day⟩, s)

/-- The digits of a fraction of a second, if there is one. -/
def readSecondFraction : List Char → List Char × List Char
  | '.' :: rest =>
    match rest.takeWhile (isDigit 10) with
    | [] => ([], '.' :: rest)
    | ds => (ds, rest.dropWhile (isDigit 10))
  | s => ([], s)

/-- A time of day. -/
def readTime (s : List Char) : Option (Time × List Char) := do
  let (hour, s) ← readPair 0 23 s
  let s ← readMark ':' s
  let (minute, s) ← readPair 0 59 s
  let s ← readMark ':' s
  let (second, s) ← readPair 0 60 s
  let (fraction, s) := readSecondFraction s
  return (⟨hour, minute, second, fraction⟩, s)

/-- An offset from universal time in minutes, if there is one. -/
def readOffset (s : List Char) : Option Int × List Char :=
  match s with
  | 'Z' :: rest => (some 0, rest)
  | 'z' :: rest => (some 0, rest)
  | c :: rest =>
    if c = '+' ∨ c = '-' then
      let offset := do
        let (hour, rest) ← readPair 0 23 rest
        let rest ← readMark ':' rest
        let (minute, rest) ← readPair 0 59 rest
        let n : Int := hour * 60 + minute
        return (if c = '-' then -n else n, rest)
      match offset with
      | some (n, rest) => (some n, rest)
      | none => (none, s)
    else (none, s)
  | [] => (none, [])

/-- A time behind a date, if there is one. -/
def readTimeAfterDate (s : List Char) : Option (Time × List Char) :=
  match s with
  | c :: rest => if c = 'T' ∨ c = 't' ∨ c = ' ' then readTime rest else none
  | [] => none

/-- A date, a time or both. -/
def readMoment (s : List Char) : Option (Moment × List Char) :=
  match readDate s with
  | some (date, s) =>
    match readTimeAfterDate s with
    | some (time, s) =>
      let (offset, s) := readOffset s
      some (⟨some date, some time, offset⟩, s)
    | none => some (⟨some date, none, none⟩, s)
  | none => (readTime s).map fun (time, s) => (⟨none, some time, none⟩, s)

end AccountAdmin.Toml
