/-!
# Writing indented lines

Text is written in steps.  A line is started, written to and ended; blocks raise the
level at which lines are indented.  Indentation is written only when the first text of
a line arrives, at the level that holds then, so a line without text has no spaces.
-/

namespace Sourcewright.Emission

inductive Step where
  | startLine (text : String)
  | write (text : String)
  | writeLine (text : String)
  | endLine
  | startBlock
  | endBlock
deriving DecidableEq

/-- What has been written, and how the next text is to be written. -/
structure Writer where
  /-- The number of spaces for each level. -/
  indent : Nat
  code : String := ""
  level : Nat := 0
  /-- Whether the next text is the first of its line. -/
  pending : Bool := false
deriving DecidableEq

namespace Writer

def spaces (count : Nat) : String :=
  String.ofList (List.replicate count ' ')

theorem length_spaces (count : Nat) : (spaces count).length = count := by
  rw [spaces, String.length_ofList, List.length_replicate]

/-- The number of spaces at the current level, which is counted in 64 bits. -/
def width (writer : Writer) : Nat :=
  writer.indent * writer.level % UInt64.size

/-- The spaces due before the next text. -/
def indentation (writer : Writer) : String :=
  if writer.pending then spaces writer.width else ""

/-- Write a text; an empty text changes nothing. -/
def write (writer : Writer) (text : String) : Writer :=
  if text.isEmpty then
    writer
  else
    { writer with code := writer.code ++ writer.indentation ++ text, pending := false }

def startLine (writer : Writer) (text : String) : Writer :=
  { writer with pending := true }.write text

def endLine (writer : Writer) : Writer :=
  { writer with code := writer.code ++ "\n", pending := false }

def take (writer : Writer) : Step → Writer
  | .startLine text => writer.startLine text
  | .write text => writer.write text
  | .writeLine text => (writer.startLine text).endLine
  | .endLine => writer.endLine
  | .startBlock => { writer with level := writer.level + 1 }
  | .endBlock => { writer with level := writer.level - 1 }

def run (writer : Writer) (steps : List Step) : Writer :=
  steps.foldl take writer

theorem run_append (writer : Writer) (first second : List Step) :
    writer.run (first ++ second) = (writer.run first).run second :=
  List.foldl_append

end Writer

end Sourcewright.Emission
