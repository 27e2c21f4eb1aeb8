/-!
# Punycode

A label of a domain name that is not ASCII travels as ASCII: its ASCII characters come first, and
the others are inserted by a run of digits of base 36, each number being the distance from the
previous insertion in the ordering by code point and position.  The size of the numbers is adapted
as the label is read, so that frequent distances stay short.

* `Punycode.encode`: the ASCII form of a list of code points.
* `Punycode.decode?`: the code points of an ASCII form, when it is one.

Encoding inserts the code points beyond ASCII in increasing order, so its outer loop is the sorted
list of them; a number is written by division, which ends because the quotient is smaller; decoding
reads one number after another, each shortening the text.
-/

namespace AccountAdmin.Url.Punycode

/-- The digit threshold at a position whose weight index is `k`. -/
def threshold (k bias : Nat) : Nat := min 26 (max 1 (k - bias))

/-- Divides a distance until it is small enough for the next bias; `fuel` bounds the number of
divisions. -/
def reduce : (fuel delta k : Nat) → Nat
  | 0, delta, k => k + 36 * delta / (delta + 38)
  | fuel + 1, delta, k =>
    if 455 < delta then reduce fuel (delta / 35) (k + 36) else k + 36 * delta / (delta + 38)

/-- The bias after a distance, with `count` characters inserted so far. -/
def adapt (delta count : Nat) (first : Bool) : Nat :=
  let delta := if first then delta / 700 else delta / 2
  reduce 64 (delta + delta / count) 0

/-- The letter or digit for a value below 36. -/
def digitChar (n : Nat) : Char := if n < 26 then Char.ofNat (97 + n) else Char.ofNat (22 + n)

/-- The value of a letter or digit. -/
def digitValue? (c : Char) : Option Nat :=
  let n := c.toNat
  if 97 ≤ n ∧ n ≤ 122 then some (n - 97)
  else if 65 ≤ n ∧ n ≤ 90 then some (n - 65)
  else if 48 ≤ n ∧ n ≤ 57 then some (n - 22)
  else none

/-- A number in digits of varying weight. -/
def writeNumber (n k bias : Nat) : List Char :=
  let t := threshold k bias
  if h : n < t then [digitChar n]
  else digitChar (t + (n - t) % (36 - t)) :: writeNumber ((n - t) / (36 - t)) (k + 36) bias
termination_by n
decreasing_by
  have h1 : 1 ≤ threshold k bias := by simp only [threshold]; omega
  have h2 : threshold k bias ≤ 26 := by simp only [threshold]; omega
  have h3 : (n - threshold k bias) / (36 - threshold k bias) ≤ n - threshold k bias :=
    Nat.div_le_self _ _
  omega

/-- Where an encoder stands. -/
structure Encoder where
  delta : Nat
  bias : Nat
  /-- How many characters are in place. -/
  placed : Nat
  output : List Char

/-- Passes one character of the label while the character `m` is being inserted: a smaller one
moves the position on, and each `m` writes a number. -/
def Encoder.pass (basic m : Nat) (e : Encoder) (c : Nat) : Encoder :=
  if c < m then { e with delta := e.delta + 1 }
  else if c = m then
    { delta := 0
      bias := adapt e.delta (e.placed + 1) (e.placed == basic)
      placed := e.placed + 1
      output := e.output ++ writeNumber e.delta 36 e.bias }
  else e

/-- Inserts the characters of a sorted list, each code point once, starting from code point `n`. -/
def encodeFrom (label : List Nat) (basic : Nat) : (later : List Nat) → (n : Nat) → Encoder → Encoder
  | [], _, e => e
  | m :: later, n, e =>
    let e := { e with delta := e.delta + (m - n) * (e.placed + 1) }
    let e := label.foldl (Encoder.pass basic m) e
    encodeFrom label basic later (m + 1) { e with delta := e.delta + 1 }

/-- Puts a code point into a sorted list without repetitions. -/
def insertSorted (n : Nat) : List Nat → List Nat
  | [] => [n]
  | m :: rest =>
    if n < m then n :: m :: rest
    else if n = m then m :: rest
    else m :: insertSorted n rest

/-- The ASCII form of a list of code points. -/
def encode (label : List Nat) : List Char :=
  let basic := label.filter (· < 128)
  let later := (label.filter (128 ≤ ·)).foldl (fun s n => insertSorted n s) []
  let front := basic.map Char.ofNat ++ (if basic.isEmpty then [] else ['-'])
  (encodeFrom label basic.length later 128 ⟨0, 72, basic.length, front⟩).output

/-- The greatest number that is read. -/
def numberMax : Nat := 0xFFFFFFFF

/-- Reads a number, adding its digits to `sum` with weight `weight`, and gives the rest of the
text. -/
def readNumber (sum weight k bias : Nat) : List Char → Option (Nat × List Char)
  | [] => none
  | c :: rest =>
    match digitValue? c with
    | none => none
    | some d =>
      let sum := sum + d * weight
      if numberMax < sum then none
      else
        let t := threshold k bias
        if d < t then some (sum, rest) else readNumber sum (weight * (36 - t)) (k + 36) bias rest

theorem length_of_readNumber {s rest : List Char} {sum weight k bias n : Nat}
    (h : readNumber sum weight k bias s = some (n, rest)) : rest.length < s.length := by
  induction s generalizing sum weight k with
  | nil => simp [readNumber] at h
  | cons c tail ih =>
    rw [readNumber] at h
    split at h
    · simp at h
    · simp only at h
      split at h
      · simp at h
      · split at h
        · simp only [Option.some.injEq, Prod.mk.injEq] at h
          rw [← h.2]
          simp
        · exact Nat.lt_trans (ih h) (by simp)

/-- Inserts the characters that the numbers of a text name into the characters in place. -/
def decodeFrom (n i bias : Nat) (placed : List Nat) (s : List Char) : Option (List Nat) :=
  match s with
  | [] => some placed
  | c :: tail =>
    match h : readNumber i 1 36 bias (c :: tail) with
    | none => none
    | some (sum, rest) =>
      have : rest.length < (c :: tail).length := length_of_readNumber h
      let count := placed.length + 1
      let n := n + sum / count
      let at_ := sum % count
      if 0x10FFFF < n ∨ (0xD800 ≤ n ∧ n ≤ 0xDFFF) then none
      else
        decodeFrom n (at_ + 1) (adapt (sum - i) count (i == 0))
          (placed.take at_ ++ n :: placed.drop at_) rest
termination_by s.length
decreasing_by simpa using this

/-- The text before the last hyphen and the text after it; without a hyphen all of it comes
after. -/
def splitAtHyphen (s : List Char) : List Char × List Char :=
  let back := s.reverse
  let digits := back.takeWhile (· != '-')
  ((back.drop (digits.length + 1)).reverse, digits.reverse)

/-- The code points of an ASCII form. -/
def decode? (s : List Char) : Option (List Nat) :=
  let (basic, rest) := splitAtHyphen s
  decodeFrom 128 0 72 (basic.map Char.toNat) rest

end AccountAdmin.Url.Punycode
