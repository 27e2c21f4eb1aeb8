import AccountAdmin.Text.Digits
import AccountAdmin.Text.Printable

/-!
# Quoted text

The form in which a text is shown inside a diagnostic: between double quotes, with the quote, the
backslash, the four usual controls and everything without a visible form of its own escaped.  The
escape of a character is a lower-case hexadecimal number between braces.

`quoted` is total and never fails; `escapeChar` says what becomes of one character.
-/

namespace AccountAdmin.Text

/-- The escape by code point, such as the one for U+0301, which has three hexadecimal digits. -/
def escapeByCode (c : Char) : List Char :=
  '\\' :: 'u' :: '\x7b' :: (hex c.toNat ++ ['\x7d'])

/-- What stands for the character between the quotes. -/
def escapeChar (c : Char) : List Char :=
  if c == Char.ofNat 0 then ['\\', '0']
  else if c == '\t' then ['\\', 't']
  else if c == '\r' then ['\\', 'r']
  else if c == '\n' then ['\\', 'n']
  else if c == '"' then ['\\', '"']
  else if c == '\\' then ['\\', '\\']
  else if isExtending c then escapeByCode c
  else if isPrintable c then [c]
  else escapeByCode c

/-- The text between double quotes, escaped. -/
def quoted (s : String) : String :=
  String.ofList ('"' :: (s.toList.flatMap escapeChar ++ ['"']))

end AccountAdmin.Text
