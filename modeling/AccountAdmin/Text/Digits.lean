/-!
# Digits

Every number this library writes (an id in a path, a port, a JSON or TOML integer) is written in
decimal without leading zeros, and every number it reads is a run of digits of some radix.  Both
directions are here, over lists of characters, so that the round trip `natOfDigits_decimal` is
one induction.

* `digitValue?`: the value of a digit in a radix up to sixteen.
* `natOfDigits`: the value of a run of digits, most significant first.
* `decimal`, `decimalInt`: the canonical decimal text of a natural number and of an integer.
* `hex`: hexadecimal digits, with the letters of the caller's choice of case.
-/

namespace AccountAdmin.Text

/-- The value of a hexadecimal digit of either case. -/
def hexValue? (c : Char) : Option Nat :=
  let n := c.toNat
  if 48 ≤ n ∧ n ≤ 57 then some (n - 48)
  else if 97 ≤ n ∧ n ≤ 102 then some (n - 87)
  else if 65 ≤ n ∧ n ≤ 70 then some (n - 55)
  else none

/-- The value of `c` as a digit of radix `radix`, which is at most sixteen. -/
def digitValue? (radix : Nat) (c : Char) : Option Nat :=
  (hexValue? c).filter (· < radix)

/-- Whether `c` is a digit of radix `radix`. -/
def isDigit (radix : Nat) (c : Char) : Bool := (digitValue? radix c).isSome

/-- The value of a run of digits, most significant first; a character that is no digit of the
radix counts as zero. -/
def natOfDigits (radix : Nat) (s : List Char) : Nat :=
  s.foldl (fun n c => n * radix + (digitValue? radix c).getD 0) 0

/-- The digit with value `n`, for `n` below sixteen, letters in lower case. -/
def digitChar (n : Nat) : Char :=
  if n < 10 then Char.ofNat (48 + n) else Char.ofNat (87 + n)

/-- The digits of `n`, most significant first, without leading zeros.  A radix below two has no
positional notation; there the number is a single digit. -/
def digits (radix : Nat) (n : Nat) : List Char :=
  if n < radix ∨ radix < 2 then [digitChar n]
  else digits radix (n / radix) ++ [digitChar (n % radix)]
termination_by n
decreasing_by exact Nat.div_lt_self (by omega) (by omega)

/-- The decimal text of a natural number. -/
def decimal (n : Nat) : List Char := digits 10 n

/-- The decimal text of an integer, with a minus sign exactly on negative ones. -/
def decimalInt : Int → List Char
  | .ofNat n => decimal n
  | .negSucc n => '-' :: decimal (n + 1)

/-- The hexadecimal text of a natural number, letters in lower case. -/
def hex (n : Nat) : List Char := digits 16 n

/-- The hexadecimal text of `n` with zeros in front up to `width` digits. -/
def hexPadded (width : Nat) (n : Nat) : List Char :=
  let ds := hex n
  List.replicate (width - ds.length) '0' ++ ds

/-- Lower-case hexadecimal letters put into upper case. -/
def upperHex (s : List Char) : List Char := s.map Char.toUpper

theorem decimal_of_lt {n : Nat} (h : n < 10) : decimal n = [digitChar n] := by
  rw [decimal, digits, if_pos (.inl h)]

theorem decimal_of_le {n : Nat} (h : 10 ≤ n) :
    decimal n = decimal (n / 10) ++ [digitChar (n % 10)] := by
  rw [decimal, digits, if_neg (by omega), decimal]

theorem digitValue?_digitChar {n : Nat} (h : n < 10) : digitValue? 10 (digitChar n) = some n := by
  have : n = 0 ∨ n = 1 ∨ n = 2 ∨ n = 3 ∨ n = 4 ∨ n = 5 ∨ n = 6 ∨ n = 7 ∨ n = 8 ∨ n = 9 := by omega
  rcases this with h | h | h | h | h | h | h | h | h | h <;> subst h <;> rfl

theorem natOfDigits_append_singleton (radix : Nat) (s : List Char) (c : Char) :
    natOfDigits radix (s ++ [c]) = natOfDigits radix s * radix + (digitValue? radix c).getD 0 := by
  simp [natOfDigits, List.foldl_append]

/-- The decimal text of a number has that number as its value. -/
theorem natOfDigits_decimal (n : Nat) : natOfDigits 10 (decimal n) = n := by
  induction n using Nat.strongRecOn with
  | ind n ih =>
    by_cases h : n < 10
    · rw [decimal_of_lt h]
      simp [natOfDigits, digitValue?_digitChar h]
    · have hdiv : n / 10 < n := Nat.div_lt_self (by omega) (by omega)
      have hmod : n % 10 < 10 := Nat.mod_lt _ (by omega)
      rw [decimal_of_le (by omega), natOfDigits_append_singleton, ih _ hdiv,
        digitValue?_digitChar hmod, Option.getD_some]
      omega

end AccountAdmin.Text
