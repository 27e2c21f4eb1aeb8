import AccountAdmin.Text.Mark

/-!
# Writing direction in a name

Letters of some scripts run from right to left.  A name with such letters is shown in another order
than it is typed, so its labels have to be of one direction each, and to begin and end with
something that shows it; otherwise two different names could look the same.

* `Direction.of`: what a character says about direction.
* `Direction.isMixed`: whether the rule applies to a name that holds this label.
* `Direction.isOrdered`: whether a label keeps the rule.

Only the characters that stand in prepared names matter here: the intervals of the tables run on
over all others.
-/

namespace AccountAdmin.Url.Domain

/-- What a character says about the direction of the text. -/
inductive Direction where
  /-- It runs from left to right. -/
  | leftToRight
  /-- It runs from right to left. -/
  | rightToLeft
  /-- A digit as used with letters that run from left to right. -/
  | europeanDigit
  /-- A digit as used with Arabic letters. -/
  | arabicDigit
  /-- A mark that goes with the character before it. -/
  | mark
  /-- A sign that goes with its surroundings. -/
  | neutral
  deriving DecidableEq, Repr

namespace Direction

/-- The letters that run from right to left, as closed intervals in increasing order. -/
def rightToLeftLetters : Array (Nat × Nat) := #[
  (0x5BE, 0x5BE), (0x5C0, 0x5C0), (0x5C3, 0x5C3), (0x5C6, 0x5C6), (0x5D0, 0x5F4), (0x608, 0x608),
  (0x60B, 0x60B), (0x60D, 0x60D), (0x61B, 0x64A), (0x66D, 0x66F), (0x671, 0x6D5), (0x6E5, 0x6E6),
  (0x6EE, 0x6EF), (0x6FA, 0x710), (0x712, 0x72F), (0x74D, 0x7A5), (0x7B1, 0x7EA), (0x7F4, 0x7F5),
  (0x7FA, 0x7FA), (0x7FE, 0x815), (0x81A, 0x81A), (0x824, 0x824), (0x828, 0x828), (0x830, 0x858),
  (0x85E, 0x88F), (0x8A0, 0x8C9), (0xFBB2, 0xFBC2), (0xFE73, 0xFE73), (0x10800, 0x1091B),
  (0x10920, 0x10A00), (0x10A10, 0x10A35), (0x10A40, 0x10AE4), (0x10AEB, 0x10B35),
  (0x10B40, 0x10D23), (0x10D4A, 0x10D4F), (0x10D6F, 0x10D8F), (0x10E80, 0x10EA9),
  (0x10EAD, 0x10EC7), (0x10F00, 0x10F45), (0x10F51, 0x10F81), (0x10F86, 0x10FF6),
  (0x1E800, 0x1E8CF), (0x1E922, 0x1E943), (0x1E94B, 0x1ED3D)]

/-- The digits used with Arabic letters, as closed intervals in increasing order. -/
def arabicDigits : Array (Nat × Nat) := #[
  (0x660, 0x669), (0x66B, 0x66C), (0x10D30, 0x10D49), (0x10E60, 0x10E7E)]

/-- The digits beyond ASCII that are used with other letters, as closed intervals in increasing
order. -/
def europeanDigits : Array (Nat × Nat) := #[
  (0x6F0, 0x6F9), (0x102E1, 0x102FB)]

/-- The signs without a direction, as closed intervals in increasing order. -/
def signs : Array (Nat × Nat) := #[
  (0xA1, 0xD7), (0xF7, 0xF7), (0x2B9, 0x2BA), (0x2C2, 0x2CF), (0x2D2, 0x2ED), (0x2EF, 0x2FF),
  (0x375, 0x375), (0x3F6, 0x3F6), (0x58A, 0x58F), (0x606, 0x607), (0x609, 0x60A), (0x60C, 0x60C),
  (0x60E, 0x60F), (0x66A, 0x66A), (0x6DE, 0x6DE), (0x6E9, 0x6E9), (0x7F6, 0x7F9), (0x9F2, 0x9F3),
  (0x9FB, 0x9FB), (0xAF1, 0xAF1), (0xBF3, 0xBFA), (0xC78, 0xC7E), (0xE3F, 0xE3F), (0xF3A, 0xF3D),
  (0x1390, 0x1399), (0x1400, 0x1400), (0x169B, 0x169C), (0x17DB, 0x17DB), (0x17F0, 0x180A),
  (0x1940, 0x1945), (0x19DE, 0x19FF), (0x200C, 0x20C4), (0x2104, 0x214D), (0x218A, 0x2335),
  (0x237B, 0x2394), (0x2396, 0x26AB), (0x26AD, 0x27FF), (0x2900, 0x2BFF), (0x2CE5, 0x2CEA),
  (0x2CF9, 0x2CFF), (0x2E00, 0x3004), (0x3008, 0x3020), (0x3030, 0x3030), (0x3037, 0x3037),
  (0x303D, 0x303F), (0x30A0, 0x30A0), (0x30FB, 0x30FB), (0x31C0, 0x31E5), (0x4DC0, 0x4DFF),
  (0xA490, 0xA4C6), (0xA60D, 0xA60F), (0xA673, 0xA673), (0xA67E, 0xA67F), (0xA700, 0xA721),
  (0xA788, 0xA788), (0xA828, 0xA82B), (0xA838, 0xA839), (0xA874, 0xA877), (0xAB6A, 0xAB6B),
  (0xFBC3, 0xFDFF), (0xFE45, 0xFE46), (0x10101, 0x10101), (0x10140, 0x1018C), (0x10190, 0x101A0),
  (0x1091F, 0x1091F), (0x10B39, 0x10B3F), (0x10D6E, 0x10D6E), (0x10EC8, 0x10ED8),
  (0x11052, 0x11065), (0x11660, 0x1166C), (0x11FD5, 0x11FF1), (0x16FE2, 0x16FE2),
  (0x1CC00, 0x1CEF0), (0x1D1E9, 0x1D241), (0x1D245, 0x1D28F), (0x1D300, 0x1D356),
  (0x1DB00, 0x1DBFF), (0x1E2FF, 0x1E2FF), (0x1EEF0, 0x1F12F), (0x1F16D, 0x1F16F),
  (0x1F1AD, 0x1F1AD), (0x1F260, 0x1FBFA)]

/-- The attaching marks that run from left to right themselves, as closed intervals in increasing
order. -/
def leftToRightMarks : Array (Nat × Nat) := #[
  (0x9BE, 0x9BE), (0x9D7, 0x9D7), (0xB3E, 0xB3E), (0xB57, 0xB57), (0xBBE, 0xBBE), (0xBD7, 0xBD7),
  (0xCBF, 0xCC0), (0xCC2, 0xCC2), (0xCC6, 0xCCB), (0xCD5, 0xCD6), (0xD3E, 0xD3E), (0xD57, 0xD57),
  (0xDCF, 0xDCF), (0xDDF, 0xDDF), (0x1715, 0x1715), (0x1734, 0x1734), (0x1B35, 0x1B35),
  (0x1B3A, 0x1B3D), (0x1B42, 0x1B44), (0x1BAA, 0x1BAA), (0x1BF2, 0x1BF3), (0x200C, 0x200C),
  (0x302E, 0x302F), (0xA953, 0xA953), (0xA9C0, 0xA9C0), (0x111C0, 0x111C0), (0x11235, 0x11235),
  (0x1133E, 0x1133E), (0x1134D, 0x1134D), (0x11357, 0x11357), (0x113B8, 0x113B8),
  (0x113C2, 0x113C9), (0x113CF, 0x113CF), (0x114B0, 0x114B0), (0x114BD, 0x114BD),
  (0x115AF, 0x115AF), (0x116B6, 0x116B6), (0x11930, 0x11930), (0x1193D, 0x1193D),
  (0x11A07, 0x11A08), (0x11C3F, 0x11C3F), (0x11F41, 0x11F41), (0x16FF0, 0x16FF1),
  (0x1D165, 0x1D166), (0x1D16D, 0x1D172)]

/-- What a character says about direction. -/
def of (c : Char) : Direction :=
  let n := c.toNat
  if n < 0x80 then
    (if c.isAlpha then .leftToRight else if c.isDigit then .europeanDigit else .neutral)
  else if Text.inIntervals rightToLeftLetters n then .rightToLeft
  else if Text.inIntervals arabicDigits n then .arabicDigit
  else if Text.inIntervals europeanDigits n then .europeanDigit
  else if Text.inIntervals signs n then .neutral
  else if Text.attaches c && !Text.inIntervals leftToRightMarks n then .mark
  else .leftToRight

/-- Whether the label makes a name one that has to keep the rule. -/
def isMixed (label : List Char) : Bool :=
  label.any fun c => of c == .rightToLeft || of c == .arabicDigit

/-- What the last character of a label says, the marks at its end left out. -/
def last? (label : List Char) : Option Direction :=
  ((label.map of).reverse.dropWhile (· == .mark)).head?

/-- Whether a label keeps the rule of its first letter.  From left to right it holds nothing that
runs the other way and ends with a letter or a digit.  From right to left it holds no letter that
runs the other way, not both kinds of digits, and ends with a letter or a digit. -/
def isOrdered (label : List Char) : Bool :=
  let all := label.map of
  match all.head? with
  | none => true
  | some .leftToRight =>
    !all.contains .rightToLeft && !all.contains .arabicDigit &&
      (last? label == some .leftToRight || last? label == some .europeanDigit)
  | some .rightToLeft =>
    !all.contains .leftToRight && !(all.contains .arabicDigit && all.contains .europeanDigit) &&
      (last? label == some .rightToLeft || last? label == some .arabicDigit ||
        last? label == some .europeanDigit)
  | some _ => false

end Direction

end AccountAdmin.Url.Domain
