import Sourcewright.Number.Text
import Sourcewright.Tree.Basic

/-!
# Targets

The languages that source text is written in, and what differs between them below
the level of declarations: the spellings of primitive types and operators, and the
marks around names and constants.
-/

namespace Sourcewright

/-- The languages that source text is written in. -/
inductive Target where
  | cpp
  | java
deriving DecidableEq

namespace Target

def name : Target → String
  | cpp => "cpp"
  | java => "java"

def extension : Target → String
  | cpp => ".cpp"
  | java => ".java"

/-- The spelling of a primitive type, if the target has one. -/
def primitiveName? : Target → Primitive → Option String
  | cpp, .string => some "string"
  | cpp, .double => some "double"
  | cpp, .float => some "float"
  | cpp, .long => some "long"
  | cpp, .integer => some "int"
  | cpp, .short => some "short"
  | cpp, .byte => some "int8_t"
  | cpp, .boolean => some "bool"
  | cpp, .char => some "char"
  | cpp, .void => some "void"
  | cpp, .unsignedLong => some "uint64_t"
  | cpp, .unsignedInt => some "uint32_t"
  | cpp, .unsignedShort => some "uint16_t"
  | cpp, .unsignedByte => some "uint8_t"
  | java, .string => some "String"
  | java, .double => some "double"
  | java, .float => some "float"
  | java, .long => some "long"
  | java, .integer => some "int"
  | java, .short => some "short"
  | java, .byte => some "byte"
  | java, .boolean => some "boolean"
  | java, .char => some "char"
  | java, .void => some "void"
  | java, .unsignedLong => none
  | java, .unsignedInt => none
  | java, .unsignedShort => none
  | java, .unsignedByte => none

/-- The symbol of an operator, if the target has one.  A shift to the right fills
with the sign or with zeros by the type of its operand in C++, so there is no
unsigned shift there. -/
def symbol? : Target → Operator → Option String
  | _, .eq => some "=="
  | _, .neq => some "!="
  | _, .lt => some "<"
  | _, .ltEq => some "<="
  | _, .gt => some ">"
  | _, .gtEq => some ">="
  | _, .plus => some "+"
  | _, .minus => some "-"
  | _, .times => some "*"
  | _, .divide => some "/"
  | _, .remainder => some "%"
  | _, .and => some "&&"
  | _, .or => some "||"
  | _, .shiftLeft => some "<<"
  | _, .shiftRight => some ">>"
  | cpp, .unsignedShiftRight => none
  | java, .unsignedShiftRight => some ">>>"

/-- A `.`-separated name with `::` in place of every dot. -/
def scopedName (name : String) : String :=
  String.ofList (name.toList.flatMap fun char => if char = '.' then [':', ':'] else [char])

def typeName : Target → String → String
  | cpp, name => scopedName name
  | java, name => name

def nullText : Target → String
  | cpp => "nullptr"
  | java => "null"

/-- The spelling of an integer constant.  Java marks the ones that need 64 bits. -/
def integerText : Target → Int64 → String
  | cpp, value => wholeText value.toInt
  | java, value =>
    if -2147483648 ≤ value.toInt ∧ value.toInt ≤ 2147483647 then
      wholeText value.toInt
    else
      wholeText value.toInt ++ "L"

/-- The mark between a type and its static method. -/
def staticMark : Target → String
  | cpp => "::"
  | java => "."

/-- The word in front of the type of a new object.  Objects are values in C++. -/
def constructionMark : Target → String
  | cpp => ""
  | java => "new "

/-- The marks in front of a field of the object itself. -/
def selfMark : Target → String
  | cpp => "this->"
  | java => "this."

end Target

end Sourcewright
