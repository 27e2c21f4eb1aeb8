import AccountAdmin.Text.Canonical.Classes
import AccountAdmin.Text.Canonical.Composites
import AccountAdmin.Text.Canonical.Variants

/-!
# The composed form of a text

Texts that differ only in how their accented letters and syllables are written down have one form in
common.  It is found in three steps: every code point is decomposed, the marks behind a letter are
arranged by their combining classes, and what can be composed with its letter is.

A mark is *blocked* from its letter by another one in between, left over by the composition, whose
class is not lower than its own.  So it is enough to know the class of the last mark left over:
their classes never decrease.

* `Canonical.decompose`, `Canonical.arrange`, `Canonical.compose`: the steps.
* `Canonical.form`: all three.
-/

namespace AccountAdmin.Text.Canonical

/-! ## Decomposing -/

/-- The letters of a syllable of Korean: an initial one, a vowel and, for most, a final one. -/
def syllableLetters (n : Nat) : List Nat :=
  let i := n - 0xAC00
  let final := i % 28
  [0x1100 + i / 588, 0x1161 + i % 588 / 28] ++ (if final = 0 then [] else [0x11A7 + final])

/-- Takes a composed character apart, and its first part as often as `depth` says. -/
def unfoldComposite : (depth : Nat) → Nat → List Nat
  | 0, n => [n]
  | depth + 1, n =>
    match valueAt? composites n with
    | some (first, second) => unfoldComposite depth first ++ [second]
    | none => [n]

/-- The code points that a code point is made of.  No composed character holds more than two others
inside of each other, so three levels are enough. -/
def decompose (n : Nat) : List Nat :=
  if n < 0xC0 then [n]
  else if 0xAC00 ≤ n ∧ n ≤ 0xD7A3 then syllableLetters n
  else
    match ideograph? n with
    | some m => [m]
    | none =>
      match valueAt? variants n with
      | some ns => ns
      | none => unfoldComposite 3 n

/-! ## Arranging -/

/-- Puts a code point in front of an arranged text, behind the marks of lower class. -/
def place (n : Nat) : List Nat → List Nat
  | [] => [n]
  | m :: rest =>
    if 0 < combiningClass m ∧ combiningClass m < combiningClass n then m :: place n rest
    else n :: m :: rest

/-- Arranges the marks behind each letter by their classes, those of one class in the order of the
text. -/
def arrange (s : List Nat) : List Nat := s.foldr place []

/-! ## Composing -/

/-- The syllable of an initial letter and a vowel, or of a syllable without final letter and one. -/
def syllable? (a b : Nat) : Option Nat :=
  if 0x1100 ≤ a ∧ a ≤ 0x1112 ∧ 0x1161 ≤ b ∧ b ≤ 0x1175 then
    some (0xAC00 + ((a - 0x1100) * 21 + (b - 0x1161)) * 28)
  else if 0xAC00 ≤ a ∧ a ≤ 0xD7A3 ∧ (a - 0xAC00) % 28 = 0 ∧ 0x11A8 ≤ b ∧ b ≤ 0x11C2 then
    some (a + (b - 0x11A7))
  else none

/-- The composed character that two code points make.  The second one is never below the first
combining mark. -/
def composite? (a b : Nat) : Option Nat :=
  if b < 0x300 then none
  else
    match syllable? a b with
    | some n => some n
    | none => (composites.find? fun entry => entry.2.1 == a && entry.2.2 == b).map Prod.fst

/-- Composes a text behind a letter.  The marks that were left over since the letter are in `marks`,
and `last` is the class of the last one, zero if there is none. -/
def composeAfter (letter : Nat) (marks : List Nat) (last : Nat) : List Nat → List Nat
  | [] => letter :: marks
  | n :: rest =>
    let k := combiningClass n
    match if marks.isEmpty || last < k then composite? letter n else none with
    | some composed => composeAfter composed marks last rest
    | none =>
      if k = 0 then letter :: (marks ++ composeAfter n [] 0 rest)
      else composeAfter letter (marks ++ [n]) k rest

/-- Composes an arranged text; marks in front of the first letter stay as they are. -/
def compose : List Nat → List Nat
  | [] => []
  | n :: rest => if combiningClass n = 0 then composeAfter n [] 0 rest else n :: compose rest

/-- The composed form of a text.  Below the first combining mark every text is in this form. -/
def form (s : List Nat) : List Nat :=
  if s.all (· < 0x300) then s else compose (arrange (s.flatMap decompose))

end AccountAdmin.Text.Canonical
