import AccountAdmin.Text.Additions
import AccountAdmin.Url.Domain.Expansions
import AccountAdmin.Url.Domain.Joiner
import AccountAdmin.Url.Domain.Replacements
import AccountAdmin.Url.Path
import AccountAdmin.Url.Punycode

/-!
# Domain names

A domain name is compared and sent as ASCII in small letters.  A name is prepared first: each
character is replaced by the one that stands for all its forms, ignorable ones vanish, and what is
left is brought into composed form.  Then every label that is not ASCII is written in Punycode
behind `xn--`, and every label that came behind `xn--` has to be one that would be written so.

* `Domain.prepare?`: the prepared form of a text, if all of it may stand in a name.
* `Domain.Label`: a label as it is shown and as it is sent.
* `Domain.toAscii?`: the name in ASCII.
-/

namespace AccountAdmin.Url.Domain

open AccountAdmin.Text

/-! ## Preparing -/

/-- An ASCII character that may not stand in a domain name. -/
def isForbidden (c : Char) : Bool :=
  Percent.isControl c || c == ' ' || c == '%' || c == '#' || c == '/' || c == ':' || c == '<' ||
    c == '>' || c == '?' || c == '@' || c == '[' || c == '\\' || c == ']' || c == '^' || c == '|'

/-- The code points that vanish from a name, as closed intervals in increasing order. -/
def ignorable : Array (Nat × Nat) := #[
  (0xAD, 0xAD), (0x34F, 0x34F), (0x115F, 0x1160), (0x17B4, 0x17B5), (0x180B, 0x180F),
  (0x200B, 0x200B), (0x2060, 0x2064), (0x206A, 0x206F), (0x3164, 0x3164), (0xFE00, 0xFE0F),
  (0xFEFF, 0xFEFF), (0xFFA0, 0xFFA0), (0x1BCA0, 0x1BCA3), (0x1D173, 0x1D17A), (0xE0100, 0xE01EF)]

/-- The printable code points that no name may hold, as closed intervals in increasing order: signs
that would be spelled with a point, and signs that describe ideographs or stand for what is lost. -/
def refused : Array (Nat × Nat) := #[
  (0x2024, 0x2026), (0x2488, 0x249B), (0x2FF0, 0x2FFF), (0x31EF, 0x31EF), (0x33C2, 0x33C2),
  (0x33C7, 0x33C7), (0x33D8, 0x33D8), (0xFE12, 0xFE12), (0xFE19, 0xFE19), (0xFE30, 0xFE30),
  (0xFE52, 0xFE52), (0xFFFC, 0xFFFD), (0x1F100, 0x1F100)]

/-- The code point that stands for `n` in plain style and small case. -/
def plain (n : Nat) : Nat :=
  match valueAt? replacements n with
  | some m => m
  | none =>
    match lastStart? Prod.fst shifts n with
    | some (first, last, step, target) =>
      if n ≤ last ∧ (n - first) % step = 0 then target + (n - first) else n
    | none => n

/-- What stands for a decomposed code point in a name: none, one or several, or a refusal. -/
def replace? (n : Nat) : Option (List Nat) :=
  if n < 0x80 then some [if 0x41 ≤ n ∧ n ≤ 0x5A then n + 0x20 else n]
  else if inIntervals ignorable n then some []
  else if n = 0x200C ∨ n = 0x200D then some [n]
  else if (inIntervals unprintable n && !inIntervals added n) || inIntervals refused n then none
  else
    match valueAt? expansions n with
    | some ns => some ns
    | none => some [plain n]

/-- What stands for a decomposed text. -/
def replaceAll? : List Nat → Option (List Nat)
  | [] => some []
  | n :: rest =>
    match replace? n with
    | none => none
    | some ns => (replaceAll? rest).map (ns ++ ·)

/-- The prepared form of a text.  Forbidden characters are looked for in the composed form, where a
stroke may have made another sign of one. -/
def prepare? (s : List Char) : Option (List Char) :=
  match replaceAll? (s.flatMap fun c => Canonical.decompose c.toNat) with
  | none => none
  | some ns =>
    let prepared := (Canonical.form ns).map Char.ofNat
    if prepared.any isForbidden then none else some prepared

/-! ## Labels -/

/-- A part of a name between points. -/
structure Label where
  /-- As it is shown. -/
  text : List Char
  /-- As it is sent. -/
  ascii : List Char
  deriving DecidableEq, Repr

/-- Whether all characters are ASCII. -/
def isAscii (s : List Char) : Bool := s.all (·.toNat < 0x80)

/-- Whether a prepared text may be shown as a label: it begins with no mark, and its joiners have
letters to join. -/
def isPresentable (text : List Char) : Bool := !text.head?.any isMark && Joiner.allFit [] text

/-- The greatest length of a label that is written in Punycode, and of one read from it, since that
has to be written again.  Writing takes time in the square of the length, and no name in use comes
near. -/
def longestText : Nat := 1000

/-- The greatest length of a label in Punycode that is read. -/
def longestCode : Nat := 2000

/-- The label that is sent as `xn--` and a code. -/
def labelOfCode? (code : List Char) : Option Label :=
  if longestCode < code.length ∨ !isAscii code then none
  else
    match Punycode.decode? code with
    | none => none
    | some points =>
      let text := points.map Char.ofNat
      if !isAscii text && text.length ≤ longestText && prepare? text == some text &&
          isPresentable text && Punycode.encode points == code then
        some { text, ascii := 'x' :: 'n' :: '-' :: '-' :: code }
      else none

/-- The label of a prepared text. -/
def label? : List Char → Option Label
  | 'x' :: 'n' :: '-' :: '-' :: code => labelOfCode? code
  | text =>
    if isAscii text then some { text, ascii := text }
    else if text.length ≤ longestText ∧ isPresentable text then
      some { text, ascii := 'x' :: 'n' :: '-' :: '-' :: Punycode.encode (text.map Char.toNat) }
    else none

/-- The labels of prepared texts. -/
def labels? : List (List Char) → Option (List Label)
  | [] => some []
  | text :: rest =>
    match label? text with
    | none => none
    | some label => (labels? rest).map (label :: ·)

/-! ## Names -/

/-- Labels with points between them. -/
def join : List (List Char) → List Char
  | [] => []
  | [label] => label
  | label :: next :: rest => label ++ '.' :: join (next :: rest)

/-- Whether the labels may stand in one name: if one runs from right to left, each keeps the rule of
its direction. -/
def areOrdered (labels : List Label) : Bool :=
  !labels.any (fun l => Direction.isMixed l.text) || labels.all fun l => Direction.isOrdered l.text

/-- A name in ASCII, unless it holds a character that no name may hold or a label that is none. -/
def toAscii? (s : List Char) : Option (List Char) :=
  match prepare? s with
  | none => none
  | some prepared =>
    match labels? (Path.split (· == '.') prepared) with
    | none => none
    | some labels => if areOrdered labels then some (join (labels.map Label.ascii)) else none

end AccountAdmin.Url.Domain
