import Sourcewright.Emission.Script
import Sourcewright.Text.Blank

/-!
# Writing comments

A comment is written as one line for each of its lines.  Lines of a comment end in a
line feed, in a carriage return, or in both; a break at the very end does not start
another line.
-/

namespace Sourcewright.Emission

def isBreak (char : Char) : Bool :=
  char == '\n' || char == '\r'

/-- A text with a line feed in place of every carriage return and line feed. -/
def joinBreaks : List Char → List Char
  | '\r' :: '\n' :: rest => '\n' :: joinBreaks rest
  | char :: rest => char :: joinBreaks rest
  | [] => []

def dropFinalBreak (text : List Char) : List Char :=
  match text.getLast? with
  | some char => if isBreak char then text.dropLast else text
  | none => text

def cutAtBreaks : List Char → List (List Char)
  | [] => [[]]
  | char :: rest =>
    if isBreak char then
      [] :: cutAtBreaks rest
    else
      match cutAtBreaks rest with
      | [] => [[char]]
      | line :: lines => (char :: line) :: lines

def commentLine (line : List Char) : String :=
  let trimmed := Text.trimEnd line
  if trimmed.isEmpty then
    "//"
  else
    "// " ++ String.ofList trimmed

def commentLines (text : String) : List String :=
  (cutAtBreaks (dropFinalBreak (joinBreaks text.toList))).map commentLine

def comment (text : String) : Script :=
  .sequence ((commentLines text).map .line)

end Sourcewright.Emission
