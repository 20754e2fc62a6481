import OpticalAccess.Text.Digits

/-!
# Writing JSON

In a text, quotes, backslashes and controls are escaped; any other character stands for itself.
Arrays and objects are written without blanks.
-/

namespace OpticalAccess.Json

def escape (c : Char) : List Char :=
  if c = '"' then ['\\', '"']
  else if c = '\\' then ['\\', '\\']
  else if c = '\x08' then ['\\', 'b']
  else if c = '\x0c' then ['\\', 'f']
  else if c = '\n' then ['\\', 'n']
  else if c = '\r' then ['\\', 'r']
  else if c = '\t' then ['\\', 't']
  else if c.toNat < 0x20 then '\\' :: 'u' :: Digits.hex 4 c.toNat
  else [c]

def quote (s : String) : List Char := '"' :: s.toList.flatMap escape ++ ['"']

def array (items : List (List Char)) : List Char := '[' :: [','].intercalate items ++ [']']

def object (members : List (String × List Char)) : List Char :=
  '\x7b' :: [','].intercalate (members.map fun (name, value) => quote name ++ ':' :: value) ++
    ['\x7d']

end OpticalAccess.Json
