import Sourcewright.Text.Extending
import Sourcewright.Text.Printable

/-!
# Quoted texts

Texts in outlines and in messages stand between quotation marks.  Quotation marks
and backslashes are escaped, a few control characters have escapes of their own,
and every other character that could not be seen, or that is a mark on its neighbour,
is written by its code.
-/

namespace Sourcewright.Text

/-- The hexadecimal digits of a number, in lower case. -/
def hexDigits (value : Nat) : List Char :=
  Nat.toDigits 16 value

def quotedChar (char : Char) : List Char :=
  if char = '"' then ['\\', '"']
  else if char = '\\' then ['\\', '\\']
  else if char = '\n' then ['\\', 'n']
  else if char = '\r' then ['\\', 'r']
  else if char = '\t' then ['\\', 't']
  else if char = '\x00' then ['\\', '0']
  else if isExtendingMark char || !isPrintable char then
    ['\\', 'u', '\x7b'] ++ hexDigits char.toNat ++ ['\x7d']
  else [char]

def quoted (text : String) : String :=
  String.ofList ('"' :: text.toList.flatMap quotedChar ++ ['"'])

end Sourcewright.Text
