import AccountAdmin.Json.Decode
import AccountAdmin.Text.Blank

/-!
# User ids

A user id is a signed 64-bit integer; the bounds are part of the type.  Its text is decimal.  It is
read from a text with blanks around it, an optional sign and any number of leading zeros, and the
three ways in which a text can fail to be an id are told apart from left to right: the digits are
added up one by one, and whichever comes first, a character that is no digit or a sum that is out
of range, is the reason.

* `UserId.text`: the canonical text, used in paths.
* `UserId.parse`: the id a text stands for.
* `UserId.ofJson`, `UserId.toJson`: the id as a JSON integer.
-/

namespace AccountAdmin

/-- A signed 64-bit user id. -/
@[ext] structure UserId where
  value : Int
  lower : -0x8000000000000000 ≤ value := by decide
  upper : value < 0x8000000000000000 := by decide
  deriving DecidableEq, Repr

/-- Why a text is no user id. -/
inductive UserId.Fault where
  | empty
  | notDigit
  | tooLarge
  | tooSmall
  deriving DecidableEq, Repr

namespace UserId

instance : Inhabited UserId := ⟨{ value := 0 }⟩

/-- The id with a given value, if the value is in range. -/
def ofInt? (n : Int) : Option UserId :=
  if h : -0x8000000000000000 ≤ n ∧ n < 0x8000000000000000 then some ⟨n, h.1, h.2⟩ else none

/-- The canonical text. -/
def text (id : UserId) : String := String.ofList (Text.decimalInt id.value)

/-- The wording of a refusal. -/
def Fault.message : Fault → String
  | empty => "cannot parse integer from empty string"
  | notDigit => "invalid digit found in string"
  | tooLarge => "number too large to fit in target type"
  | tooSmall => "number too small to fit in target type"

/-- Adds the digits of a text to a magnitude, which stays at most `limit`. -/
def accumulate (limit : Nat) (overflow : Fault) (sum : Nat) :
    List Char → Except Fault Nat
  | [] => .ok sum
  | c :: rest =>
    match Text.digitValue? 10 c with
    | none => .error .notDigit
    | some d =>
      let next := sum * 10 + d
      if next ≤ limit then accumulate limit overflow next rest else .error overflow

/-- The integer that a text without blanks around it stands for. -/
def parseSigned : List Char → Except Fault Int
  | [] => .error .empty
  | ['+'] => .error .notDigit
  | ['-'] => .error .notDigit
  | '-' :: ds => (accumulate 0x8000000000000000 .tooSmall 0 ds).map fun n => -(n : Int)
  | '+' :: ds => (accumulate 0x7FFFFFFFFFFFFFFF .tooLarge 0 ds).map fun n => (n : Int)
  | ds => (accumulate 0x7FFFFFFFFFFFFFFF .tooLarge 0 ds).map fun n => (n : Int)

/-- The id that a text stands for, blanks around it aside. -/
def parse (s : String) : Except Fault UserId :=
  match parseSigned (Text.trim s.toList) with
  | .error e => .error e
  | .ok n =>
    match ofInt? n with
    | some id => .ok id
    | none => .error (if n < 0 then .tooSmall else .tooLarge)

/-- The id as JSON. -/
def toJson (id : UserId) : Json := .integer id.value

/-- The id that a JSON value holds. -/
def ofJson : Json → Except Mismatch UserId
  | .integer n =>
    match ofInt? n with
    | some id => .ok id
    | none => .error (.range n .id64)
  | v => .error (.kind v .id64)

@[simp] theorem ofInt?_value (id : UserId) : ofInt? id.value = some id := by
  rw [ofInt?, dif_pos ⟨id.lower, id.upper⟩]

@[simp] theorem ofJson_toJson (id : UserId) : ofJson id.toJson = .ok id := by
  simp [ofJson, toJson]

end UserId

end AccountAdmin
