import AccountAdmin.Json.Reader

/-!
# The grammar of JSON

What a JSON document says can be told without telling how it is read.  `Document v s` is that: the
text `s` is a document that says `v`.  Here an object lists its members the way the text does, in
the order of the text and with every repetition of a key; what a reader makes of them is another
matter, and `Json.canonical` is what it makes of them.

The grammar goes from the inside to the outside.  `Spelled` is about what stands between the quotes
of a string, `Numeral.Written` about numbers, `Scalar` about all values that hold no others, and
`Nested` about arrays and objects, whose elements are taken from any relation between values and
texts.  So the recursion is in one place, in `Written`, and it is a recursion on the number of
arrays and objects that may be nested.

A number counts as one only if it has a value: a text with a number that is out of range is no
document.
-/

namespace AccountAdmin.Json

open AccountAdmin.Text

/-! ## Gaps -/

/-- A run of blanks between tokens. -/
def Gap (g : List Char) : Prop := ∀ c ∈ g, isGap c = true

theorem gap_nil : Gap [] := fun _ h => nomatch h

/-! ## Strings -/

/-- Between its quotes a text spells some characters.  A quote, a backslash and a control have to be
escaped; half of a surrogate pair stands for a character only in front of the other half. -/
inductive Spelled : (text chars : List Char) → Prop where
  | nil : Spelled [] []
  | plain {c : Char} {t cs : List Char} (hquote : c ≠ '"') (hescape : c ≠ '\\')
      (hcontrol : 32 ≤ c.toNat) (h : Spelled t cs) : Spelled (c :: t) (c :: cs)
  | short {c e : Char} {t cs : List Char} (he : simpleEscape? c = some e) (h : Spelled t cs) :
      Spelled ('\\' :: c :: t) (e :: cs)
  | unit {a b c d : Char} {n : Nat} {t cs : List Char} (hn : codeUnit? a b c d = some n)
      (hsingle : n < 0xD800 ∨ 0xDFFF < n) (h : Spelled t cs) :
      Spelled ('\\' :: 'u' :: a :: b :: c :: d :: t) (Char.ofNat n :: cs)
  | pair {a b c d a' b' c' d' : Char} {high low : Nat} {t cs : List Char}
      (hhigh : codeUnit? a b c d = some high) (hlow : codeUnit? a' b' c' d' = some low)
      (hfirst : 0xD800 ≤ high ∧ high < 0xDC00) (hsecond : 0xDC00 ≤ low ∧ low ≤ 0xDFFF)
      (h : Spelled t cs) :
      Spelled ('\\' :: 'u' :: a :: b :: c :: d :: '\\' :: 'u' :: a' :: b' :: c' :: d' :: t)
        (Char.ofNat (0x10000 + (high - 0xD800) * 0x400 + (low - 0xDC00)) :: cs)

/-! ## Numbers -/

/-- At least one digit. -/
structure Digits (ds : List Char) : Prop where
  ne_nil : ds ≠ []
  isDigit : ∀ c ∈ ds, Text.isDigit 10 c = true

/-- The digits before the point; a zero stands alone. -/
structure Whole (ds : List Char) : Prop where
  digits : Digits ds
  zero : ds.head? = some '0' → ds = ['0']

/-- The text of a fraction, if there is one. -/
inductive Fraction : Option (List Char) → List Char → Prop where
  | absent : Fraction none []
  | point {ds : List Char} (hds : Digits ds) : Fraction (some ds) ('.' :: ds)

/-- The mark in front of an exponent. -/
def ExponentMark (c : Char) : Prop := c = 'e' ∨ c = 'E'

instance (c : Char) : Decidable (ExponentMark c) := inferInstanceAs (Decidable (_ ∨ _))

/-- The text of an exponent, if there is one: whether it is negative, and its digits. -/
inductive Exponent : Option (Bool × List Char) → List Char → Prop where
  | absent : Exponent none []
  | unsigned {c : Char} {ds : List Char} (hc : ExponentMark c) (hds : Digits ds) :
      Exponent (some (false, ds)) (c :: ds)
  | positive {c : Char} {ds : List Char} (hc : ExponentMark c) (hds : Digits ds) :
      Exponent (some (false, ds)) (c :: '+' :: ds)
  | negative {c : Char} {ds : List Char} (hc : ExponentMark c) (hds : Digits ds) :
      Exponent (some (true, ds)) (c :: '-' :: ds)

/-- The sign of a number, which is written only if the number is negative. -/
def signText (negative : Bool) : List Char := if negative then ['-'] else []

/-- The text of the parts of a number. -/
inductive Numeral.Written : Numeral → List Char → Prop where
  | parts {negative : Bool} {whole : List Char} {fraction : Option (List Char)}
      {exponent : Option (Bool × List Char)} {f e : List Char} (hwhole : Whole whole)
      (hfraction : Fraction fraction f) (hexponent : Exponent exponent e) :
      Numeral.Written ⟨negative, whole, fraction, exponent⟩
        (signText negative ++ (whole ++ (f ++ e)))

/-! ## Values -/

/-- The text of a value that holds no others. -/
inductive Scalar : Json → List Char → Prop where
  | null : Scalar .null ['n', 'u', 'l', 'l']
  | yes : Scalar (.bool true) ['t', 'r', 'u', 'e']
  | no : Scalar (.bool false) ['f', 'a', 'l', 's', 'e']
  | number {n : Numeral} {t : List Char} {v : Json} (hn : n.Written t) (hv : n.value? = some v) :
      Scalar v t
  | string {t cs : List Char} (h : Spelled t cs) :
      Scalar (.string (String.ofList cs)) ('"' :: (t ++ ['"']))

/-- One element after another, with commas between them. -/
inductive Listed {α : Type} (P : α → List Char → Prop) : List α → List Char → Prop where
  | last {a : α} {t : List Char} (h : P a t) : Listed P [a] t
  | more {a : α} {as : List α} {t u : List Char} (h : P a t) (hrest : Listed P as u) :
      Listed P (a :: as) (t ++ ',' :: u)

section

variable (W : Json → List Char → Prop)

/-- The text of a value with gaps around it. -/
inductive Padded : Json → List Char → Prop where
  | mk {v : Json} {g t g' : List Char} (hg : Gap g) (hv : W v t) (hg' : Gap g') :
      Padded v (g ++ (t ++ g'))

/-- The text of a member of an object: a key, a colon and a value, with gaps around each. -/
inductive Member : String × Json → List Char → Prop where
  | mk {v : Json} {g k cs g' t : List Char} (hg : Gap g) (hk : Spelled k cs) (hg' : Gap g')
      (hv : Padded W v t) :
      Member (String.ofList cs, v) (g ++ '"' :: (k ++ '"' :: (g' ++ ':' :: t)))

/-- The text of an array or an object. -/
inductive Nested : Json → List Char → Prop where
  | emptyArray {g : List Char} (hg : Gap g) : Nested (.array []) ('[' :: (g ++ [']']))
  | array {items : List Json} {t : List Char} (h : Listed (Padded W) items t) :
      Nested (.array items) ('[' :: (t ++ [']']))
  | emptyObject {g : List Char} (hg : Gap g) : Nested (.object []) ('\x7b' :: (g ++ ['\x7d']))
  | object {fields : List (String × Json)} {t : List Char} (h : Listed (Member W) fields t) :
      Nested (.object fields) ('\x7b' :: (t ++ ['\x7d']))

end

/-- The text of a value in which so many arrays and objects may be nested. -/
def Written : (depth : Nat) → Json → List Char → Prop
  | 0 => Scalar
  | depth + 1 => fun v t => Scalar v t ∨ Nested (Written depth) v t

theorem Scalar.written {v : Json} {t : List Char} (h : Scalar v t) (depth : Nat) :
    Written depth v t := by
  cases depth with
  | zero => exact h
  | succ depth => exact .inl h

/-- A text is a document that says this. -/
def Document (v : Json) (s : List Char) : Prop := Padded (Written maxDepth) v s

/-- A message body is a document that says this. -/
def BodyDocument (v : Json) (bytes : ByteArray) : Prop :=
  ∃ s : String, s.toUTF8 = bytes ∧ Document v s.toList

/-! ## What is read of a document -/

mutual

/-- The value with the fields of all its objects in increasing order of their keys, and of those
with one key only the last. -/
def canonical : Json → Json
  | .array items => .array (canonicalItems items)
  | .object fields => .object (sortFields (canonicalFields fields))
  | .null => .null
  | .bool b => .bool b
  | .integer n => .integer n
  | .double d => .double d
  | .string s => .string s

/-- The items of an array, each made canonical. -/
def canonicalItems : List Json → List Json
  | [] => []
  | v :: rest => canonical v :: canonicalItems rest

/-- The fields of an object, the value of each made canonical. -/
def canonicalFields : List (String × Json) → List (String × Json)
  | [] => []
  | (key, v) :: rest => (key, canonical v) :: canonicalFields rest

end

/-- The value under a key, the last if there are several. -/
def lastUnder? (key : String) : List (String × Json) → Option Json
  | [] => none
  | (k, v) :: rest => (lastUnder? key rest).or (if k = key then some v else none)

theorem lookup?_foldl_insertField (key : String) (fields sorted : List (String × Json)) :
    lookup? key (fields.foldl (fun sorted field => insertField field.1 field.2 sorted) sorted) =
      (lastUnder? key fields).or (lookup? key sorted) := by
  induction fields generalizing sorted with
  | nil => rfl
  | cons field rest ih =>
    obtain ⟨k, v⟩ := field
    rw [List.foldl_cons, ih, lastUnder?, Option.or_assoc]
    by_cases hk : k = key
    · subst hk
      rw [lookup?_insertField_self, if_pos rfl, Option.some_or]
    · rw [lookup?_insertField_of_ne (Ne.symm hk), if_neg hk, Option.none_or]

/-- Sorting keeps the last of the fields under a key. -/
theorem lookup?_sortFields (key : String) (fields : List (String × Json)) :
    lookup? key (sortFields fields) = lastUnder? key fields := by
  rw [sortFields, lookup?_foldl_insertField, lookup?, Option.or_none]

theorem lastUnder?_canonicalFields (key : String) (fields : List (String × Json)) :
    lastUnder? key (canonicalFields fields) = (lastUnder? key fields).map canonical := by
  induction fields with
  | nil => rfl
  | cons field rest ih =>
    obtain ⟨k, v⟩ := field
    rw [canonicalFields, lastUnder?, lastUnder?, ih, Option.map_or,
      apply_ite (Option.map canonical)]
    rfl

/-- What is read under a key of an object is what the text has last under that key. -/
theorem field?_canonical_object (key : String) (fields : List (String × Json)) :
    field? key (canonical (.object fields)) = (lastUnder? key fields).map canonical := by
  rw [canonical, field?, lookup?_sortFields, lastUnder?_canonicalFields]

end AccountAdmin.Json
