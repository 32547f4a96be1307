import CameraServer.Text.Escaped
import CameraServer.Text.Numeral

/-!
Quoted text as it stands in error messages: in double quotes, with a backslash before quotes and
backslashes, short escapes for the common control characters and numbers for what has no glyph.
-/

set_option autoImplicit false

namespace CameraServer.Text

def quotedChar (c : Char) : List Char :=
  if c = '"' then ['\\', '"']
  else if c = '\\' then ['\\', '\\']
  else if c = '\n' then ['\\', 'n']
  else if c = '\r' then ['\\', 'r']
  else if c = '\t' then ['\\', 't']
  else if c.toNat = 0 then ['\\', '0']
  else if 32 ≤ c.toNat ∧ c.toNat < 127 then [c]
  else if isEscaped c then
    '\\' :: 'u' :: Char.ofNat 123 :: hexadecimal c.toNat ++ [Char.ofNat 125]
  else [c]

def quoted (s : String) : String :=
  String.ofList ('"' :: s.toList.flatMap quotedChar ++ ['"'])

end CameraServer.Text
