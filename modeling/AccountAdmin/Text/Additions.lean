import AccountAdmin.Text.Printable

/-!
# Characters that came later

The tables of `Printable` stand for version 17 of the Unicode data, since that is what quoted text
is written by.  Domain names are read by version 18.  This module holds what that version adds to
the tables; where it moves a character from one class to another, the table of the class says so.

* `added`: the code points that have become characters.
* `attaches`: whether a character attaches to the one before it, the added marks included.
-/

namespace AccountAdmin.Text

/-- The code points that version 18 has made visible characters, as closed intervals in increasing
order.  The long ones are scripts: cuneiform numerals, Chisoi, Jurchen and Seal. -/
def added : Array (Nat × Nat) := #[
  (0x58B, 0x58B), (0x5C8, 0x5C8), (0x1ADE, 0x1ADF), (0x208F, 0x208F), (0x209D, 0x209F),
  (0x20C2, 0x20C4), (0x2E5E, 0x2E60), (0xA7DD, 0xA7E2), (0xAB6C, 0xAB6C), (0x10EC8, 0x10ECB),
  (0x12550, 0x12686), (0x16D80, 0x16DA9), (0x18E00, 0x19191), (0x191A0, 0x191D2),
  (0x1D250, 0x1D28F), (0x1DB00, 0x1DBFF), (0x1F6D9, 0x1F6D9), (0x1FA8B, 0x1FA8C),
  (0x1FAC9, 0x1FAC9), (0x1FACC, 0x1FACC), (0x1FADD, 0x1FADD), (0x1FAEB, 0x1FAEB),
  (0x1FAF9, 0x1FAFA), (0x3D000, 0x3FC3F)]

/-- The added characters that attach to the one before them, as closed intervals in increasing
order. -/
def addedMarks : Array (Nat × Nat) := #[
  (0x5C8, 0x5C8), (0x1ADE, 0x1ADF)]

/-- Whether the character attaches to the one before it. -/
def attaches (c : Char) : Bool := isExtending c || inIntervals addedMarks c.toNat

end AccountAdmin.Text
