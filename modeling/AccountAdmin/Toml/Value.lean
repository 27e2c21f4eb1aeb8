import AccountAdmin.Number.Double

/-!
# TOML values

The values of a TOML document.  A table remembers how it came to be, since that decides which later
lines of the document may still add to it; tables listed under a doubled header are kept apart from
arrays for the same reason.

* `Value.key?`: the value under a key.
-/

namespace AccountAdmin.Toml

/-- A calendar date. -/
structure Date where
  year : Nat
  month : Nat
  day : Nat
  deriving DecidableEq, Repr

/-- A time of day; the digits of the fraction of a second as they are written. -/
structure Time where
  hour : Nat
  minute : Nat
  second : Nat
  fraction : List Char
  deriving DecidableEq, Repr

/-- A date, a time or both, the latter perhaps with an offset from universal time in minutes. -/
structure Moment where
  date : Option Date
  time : Option Time
  offset : Option Int
  deriving DecidableEq, Repr

/-- How a table came to be. -/
inductive Origin where
  /-- By a header of its own, or as the document itself. -/
  | header
  /-- Through the header of a table below it. -/
  | implied
  /-- Through a dotted key. -/
  | dotted
  /-- Between braces. -/
  | braced
  deriving DecidableEq, Repr

/-- A TOML value. -/
inductive Value where
  | text (s : String)
  | integer (n : Int)
  | float (d : Double)
  | boolean (b : Bool)
  | moment (m : Moment)
  | array (items : List Value)
  | table (origin : Origin) (entries : List (String × Value))
  /-- The tables with a doubled header, the latest apart from the earlier ones, of which the latest
  comes first. -/
  | tables (latest : List (String × Value)) (earlier : List (List (String × Value)))
  deriving Repr, Inhabited

/-- What a table holds, in the order of the document. -/
abbrev Entries := List (String × Value)

namespace Entries

/-- The value under a key. -/
def find? (key : String) : Entries → Option Value
  | [] => none
  | (k, v) :: rest => if k = key then some v else find? key rest

end Entries

end AccountAdmin.Toml
