import Custody.Text.Extender
import Custody.Text.Hex
import Custody.Text.Printable

/-!
# Quoted text

A text shown in quotation marks, so that it can be told apart from what surrounds it. The
quotation mark and the backslash are escaped by a backslash; tab, line feed, carriage return
and the null character have one-letter escapes; every other character that is not printable or
would attach to the one before it is written as `\u`, braces and its code in hexadecimal. The
rest stands as it is, the apostrophe too.
-/

namespace Custody.Text

/-- One character as it stands inside quotation marks. -/
def quotedChar (c : Char) : List Char :=
  if c = '"' then ['\\', '"']
  else if c = '\\' then ['\\', '\\']
  else if c = '\t' then ['\\', 't']
  else if c = '\n' then ['\\', 'n']
  else if c = '\r' then ['\\', 'r']
  else if c.toNat = 0 then ['\\', '0']
  else if isExtender c || !isPrintable c then
    '\\' :: 'u' :: '\x7b' :: Hex.digits c.toNat ++ ['\x7d']
  else [c]

/-- A text in quotation marks. -/
def quoted (text : String) : String :=
  "\"" ++ String.ofList (text.toList.flatMap quotedChar) ++ "\""

end Custody.Text
