import Sourcewright.Emission.Script

/-!
# Writing constants

Text constants are written between quotation marks.  Quotation marks and backslashes
are escaped, three control characters have escapes of their own, and the other ASCII
control characters are written as three octal digits, which both targets read alike.
-/

namespace Sourcewright.Emission

/-- The octal digits of a number below 512. -/
def octalDigits (value : Nat) : List Char :=
  [Nat.digitChar (value / 64), Nat.digitChar (value / 8 % 8), Nat.digitChar (value % 8)]

def constantChar (char : Char) : List Char :=
  if char = '\\' then ['\\', '\\']
  else if char = '"' then ['\\', '"']
  else if char = '\n' then ['\\', 'n']
  else if char = '\r' then ['\\', 'r']
  else if char = '\t' then ['\\', 't']
  else if char.toNat < 0x20 || char.toNat == 0x7f then '\\' :: octalDigits char.toNat
  else [char]

def textConstant (value : String) : String :=
  String.ofList ('"' :: value.toList.flatMap constantChar ++ ['"'])

/-- Write a constant.  No target can write a number that is not finite. -/
def literal (target : Target) : Literal → Script
  | .truth true => .text "true"
  | .truth false => .text "false"
  | .integer value => .text (target.integerText value)
  | .float value =>
    if value.isFinite then
      .text (FloatStyle.literal.text value)
    else
      .stop (.float target value)
  | .text value => .text (textConstant value)
  | .null => .text target.nullText

end Sourcewright.Emission
