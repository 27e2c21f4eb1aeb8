import AccountAdmin.Number.Double

/-!
# JSON values

The service speaks JSON in both directions.  A value keeps an integer as an integer as long as it
fits into 64 bits, signed or unsigned; any other number is a double.  An object is a list of
fields: a request body lists them in the order in which the record declares them, and a document
that was read lists them by key, each key once.

* `Json.integerMin`, `Json.integerMax`: the integers that are kept.
* `Json.insertField`, `Json.sortFields`: the order of the fields of a document that was read; of
  two fields with one key the later one stays.
* `Json.field?`: the value under a key.
-/

namespace AccountAdmin

/-- A JSON value. -/
inductive Json where
  | null
  | bool (b : Bool)
  | integer (n : Int)
  | double (d : Double)
  | string (s : String)
  | array (items : List Json)
  | object (fields : List (String × Json))
  deriving Repr, Inhabited

namespace Json

/-- The least integer that is kept as an integer. -/
def integerMin : Int := -0x8000000000000000

/-- The greatest integer that is kept as an integer. -/
def integerMax : Int := 0xFFFFFFFFFFFFFFFF

/-- Puts a field into a list of fields in increasing order of their keys, in place of a field with
the same key. -/
def insertField (key : String) (value : Json) : List (String × Json) → List (String × Json)
  | [] => [(key, value)]
  | (k, v) :: rest =>
    if key < k then (key, value) :: (k, v) :: rest
    else if key = k then (key, value) :: rest
    else (k, v) :: insertField key value rest

/-- The fields in increasing order of their keys, the last of those with one key. -/
def sortFields (fields : List (String × Json)) : List (String × Json) :=
  fields.foldl (fun sorted field => insertField field.1 field.2 sorted) []

/-- The value under a key, the first if there are several. -/
def lookup? (key : String) : List (String × Json) → Option Json
  | [] => none
  | (k, v) :: rest => if k = key then some v else lookup? key rest

/-- The value under a key of an object; other values have no keys. -/
def field? (key : String) : Json → Option Json
  | .object fields => lookup? key fields
  | _ => none

/-- A text, or null. -/
def ofText? : Option String → Json
  | none => .null
  | some s => .string s

/-- An integer, or null. -/
def ofInteger? : Option Int → Json
  | none => .null
  | some n => .integer n

@[simp] theorem insertField_nil (key : String) (value : Json) :
    insertField key value [] = [(key, value)] := rfl

@[simp] theorem sortFields_nil : sortFields [] = [] := rfl

theorem lookup?_insertField_self (key : String) (value : Json) (fields : List (String × Json)) :
    lookup? key (insertField key value fields) = some value := by
  induction fields with
  | nil => simp [lookup?]
  | cons head rest ih =>
    obtain ⟨k, v⟩ := head
    rw [insertField]
    split
    · simp [lookup?]
    · split
      · simp [lookup?]
      · next h => simp [lookup?, Ne.symm h, ih]

theorem lookup?_insertField_of_ne {key other : String} (h : other ≠ key) (value : Json)
    (fields : List (String × Json)) :
    lookup? other (insertField key value fields) = lookup? other fields := by
  induction fields with
  | nil => simp [lookup?, h.symm]
  | cons head rest ih =>
    obtain ⟨k, v⟩ := head
    rw [insertField]
    split
    · simp [lookup?, h.symm]
    · split
      · next hk => subst hk; simp [lookup?, h.symm]
      · simp [lookup?, ih]

end Json

end AccountAdmin
