import AccountAdmin.Text.Digits

/-!
# Percent encoding

A character that may not stand in a part of a URL is written as its UTF-8 bytes, each a percent sign
and two upper-case hexadecimal digits.  Which characters these are depends on the part: controls and
everything beyond ASCII always, and a set of ASCII characters of the part's own.

* `Percent.inPath`, `inQuery`, `inSpecialQuery`, `inFragment`, `inUserInfo`: the sets of the parts.
* `Percent.encode`: a text with the characters of a set encoded.
* `Percent.decode`: the bytes that a text stands for.
* `Percent.text?`: these bytes as a text.
-/

namespace AccountAdmin.Url.Percent

open AccountAdmin.Text

/-- The controls of ASCII. -/
def isControl (c : Char) : Bool := c.toNat < 0x20 || c.toNat == 0x7F

/-- What is encoded in a fragment. -/
def inFragment (c : Char) : Bool :=
  c == ' ' || c == '"' || c == '<' || c == '>' || c == '\x60'

/-- What is encoded in a path. -/
def inPath (c : Char) : Bool :=
  inFragment c || c == '#' || c == '?' || c == '\x7b' || c == '\x7d'

/-- What is encoded in a user name or password. -/
def inUserInfo (c : Char) : Bool :=
  inPath c || c == '/' || c == ':' || c == ';' || c == '=' || c == '@' || c == '[' || c == '\\' ||
    c == ']' || c == '^' || c == '|'

/-- What is encoded in a query. -/
def inQuery (c : Char) : Bool := c == ' ' || c == '"' || c == '#' || c == '<' || c == '>'

/-- What is encoded in the query of a special scheme. -/
def inSpecialQuery (c : Char) : Bool := inQuery c || c == '\''

/-- Nothing beyond the controls. -/
def nothing (_ : Char) : Bool := false

/-- A byte as a percent sign and two digits. -/
def encodeByte (b : UInt8) : List Char := '%' :: upperHex (hexPadded 2 b.toNat)

/-- The bytes of a character, each encoded. -/
def encodeChar (c : Char) : List Char := (String.utf8EncodeChar c).flatMap encodeByte

/-- A text with the controls, the characters beyond ASCII and those of `set` encoded. -/
def encode (set : Char → Bool) (s : List Char) : List Char :=
  s.flatMap fun c => if isControl c || 0x7F < c.toNat || set c then encodeChar c else [c]

/-- The bytes that a text stands for; a percent sign without two digits stands for itself. -/
def decode : List Char → List UInt8
  | [] => []
  | '%' :: a :: b :: rest =>
    if isDigit 16 a && isDigit 16 b then UInt8.ofNat (natOfDigits 16 [a, b]) :: decode rest
    else String.utf8EncodeChar '%' ++ decode (a :: b :: rest)
  | c :: rest => String.utf8EncodeChar c ++ decode rest

/-- The text that a text with escapes stands for, if it stands for one. -/
def text? (s : List Char) : Option String := String.fromUTF8? ⟨(decode s).toArray⟩

@[simp] theorem encode_nil (set : Char → Bool) : encode set [] = [] := rfl

theorem encode_append (set : Char → Bool) (s t : List Char) :
    encode set (s ++ t) = encode set s ++ encode set t := by
  simp [encode, List.flatMap_append]

end AccountAdmin.Url.Percent
