import OpticalAccess.Text.Digits
import OpticalAccess.Text.Printable

/-!
# Quoted text

Text between double quotes. Quotes, backslashes, common controls and NUL have short escapes; any
other character without a shape is written by its code point in braces.
-/

namespace OpticalAccess.Quoted

def escape (c : Char) : List Char :=
  if c = '"' then ['\\', '"']
  else if c = '\\' then ['\\', '\\']
  else if c = '\t' then ['\\', 't']
  else if c = '\n' then ['\\', 'n']
  else if c = '\r' then ['\\', 'r']
  else if c = '\x00' then ['\\', '0']
  else if Printable.isPrintable c then [c]
  else "\\u\x7b".toList ++ Digits.hexadecimal c.toNat ++ ['\x7d']

def encode (s : List Char) : List Char := '"' :: s.flatMap escape ++ ['"']

def text (s : String) : String := String.ofList (encode s.toList)

end OpticalAccess.Quoted
