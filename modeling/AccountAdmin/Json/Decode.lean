import AccountAdmin.Json.Printer
import AccountAdmin.Text.Quoted

/-!
# Decoding JSON

A record is decoded from an object by key or from an array by position.  A value of the wrong shape
is refused with a `Mismatch`, a cause that names what was found and what was expected; the wording
is `Mismatch.message`.

Fields of an object are visited in the order in which the object lists them, so of two wrong fields
the one listed first is reported.

* `Decode.text`, `Decode.flag`, `Decode.id64`: the atoms.
* `Decode.nullable`: null stands for no value.
* `Decode.items`: every item of an array.
-/

namespace AccountAdmin

/-- What a decoder asks for. -/
inductive Shape where
  | text
  | flag
  | id64
  | list
  | record (name : String)
  deriving DecidableEq, Repr

/-- Why a JSON value was refused. -/
inductive Mismatch where
  /-- A value of another kind. -/
  | kind (found : Json) (expected : Shape)
  /-- An integer out of range. -/
  | range (found : Int) (expected : Shape)
  /-- A key that is not there. -/
  | absent (key : String)
  /-- An array that ends before a field without which the record cannot be. -/
  | short (length : Nat) (expected : Shape) (fields : Nat)
  /-- An array with more items than the record has fields. -/
  | long (length : Nat)
  deriving Repr

namespace Shape

/-- The words for a shape. -/
def describe : Shape → String
  | text => "a string"
  | flag => "a boolean"
  | id64 => "i64"
  | list => "a sequence"
  | record name => "struct " ++ name

end Shape

namespace Mismatch

/-- The words for a value that was found. -/
def describeFound : Json → String
  | .null => "null"
  | .bool b => "boolean `" ++ (if b then "true" else "false") ++ "`"
  | .integer n => "integer `" ++ String.ofList (Text.decimalInt n) ++ "`"
  | .double d => "floating point `" ++ String.ofList d.text ++ "`"
  | .string s => "string " ++ Text.quoted s
  | .array _ => "sequence"
  | .object _ => "map"

/-- The wording of a refusal. -/
def message : Mismatch → String
  | kind found expected =>
    "invalid type: " ++ describeFound found ++ ", expected " ++ expected.describe
  | range found expected =>
    "invalid value: " ++ describeFound (.integer found) ++ ", expected " ++ expected.describe
  | absent key => "missing field `" ++ key ++ "`"
  | short length expected fields =>
    "invalid length " ++ String.ofList (Text.decimal length) ++ ", expected " ++
      expected.describe ++ " with " ++ String.ofList (Text.decimal fields) ++ " elements"
  | long length =>
    "invalid length " ++ String.ofList (Text.decimal length) ++
      ", expected fewer elements in array"

end Mismatch

namespace Decode

/-- A string. -/
def text : Json → Except Mismatch String
  | .string s => .ok s
  | v => .error (.kind v .text)

/-- A Boolean. -/
def flag : Json → Except Mismatch Bool
  | .bool b => .ok b
  | v => .error (.kind v .flag)

/-- No value for null, and otherwise what the decoder makes of the value. -/
def nullable {α : Type} (decode : Json → Except Mismatch α) : Json → Except Mismatch (Option α)
  | .null => .ok none
  | v => (decode v).map some

/-- What the decoder makes of the value, and a default for null. -/
def nullAs {α : Type} (default : α) (decode : Json → Except Mismatch α) (v : Json) :
    Except Mismatch α :=
  (nullable decode v).map (·.getD default)

/-- What the decoder makes of every item, up to the first that it refuses. -/
def all {α : Type} (decode : Json → Except Mismatch α) : List Json → Except Mismatch (List α)
  | [] => .ok []
  | v :: rest =>
    match decode v with
    | .error e => .error e
    | .ok a => (all decode rest).map (a :: ·)

/-- The items of an array. -/
def items {α : Type} (decode : Json → Except Mismatch α) : Json → Except Mismatch (List α)
  | .array vs => all decode vs
  | v => .error (.kind v .list)

/-- Builds a record from an object: every field updates it, in the order of the fields. -/
def fields {α : Type} (update : α → String → Json → Except Mismatch α) (start : α) :
    List (String × Json) → Except Mismatch α
  | [] => .ok start
  | (key, v) :: rest =>
    match update start key v with
    | .error e => .error e
    | .ok next => fields update next rest

/-- Builds a record from an array: every item updates the field at its position. -/
def positions {α : Type} (updates : List (α → Json → Except Mismatch α)) (start : α) :
    List Json → Except Mismatch α
  | [] => .ok start
  | v :: rest =>
    match updates with
    | [] => .ok start
    | update :: updates =>
      match update start v with
      | .error e => .error e
      | .ok next => positions updates next rest

end Decode

end AccountAdmin
