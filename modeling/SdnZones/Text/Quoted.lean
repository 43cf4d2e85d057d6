-- SUMMARY: The quoted form of a text, used wherever a message shows a text as it was given.
import SdnZones.Text.Printable
import SdnZones.Text.GraphemeExtend

/-!
# Quoted text

A text in double quotes. The quote, the backslash and a few controls have escapes of
two characters; other characters that cannot be shown on their own are written by
their code point. A single quote stands as it is.
-/

namespace SdnZones.Text

/-- The hexadecimal digits of a number, in lower case and without leading zeros. -/
def hexLower (n : Nat) : List Char := Nat.toDigits 16 n

/-- A character inside quotes. -/
def quotedChar (c : Char) : List Char :=
  if c = '\x00' then ['\\', '0']
  else if c = '\t' then ['\\', 't']
  else if c = '\r' then ['\\', 'r']
  else if c = '\n' then ['\\', 'n']
  else if c = '\\' then ['\\', '\\']
  else if c = '"' then ['\\', '"']
  else if extendsGrapheme c || !isPrintable c then
    ['\\', 'u', '\x7b'] ++ hexLower c.toNat ++ ['\x7d']
  else [c]

/-- The quoted form of a text. -/
def quoted (s : String) : String :=
  String.ofList ('"' :: s.toList.flatMap quotedChar ++ ['"'])

end SdnZones.Text
