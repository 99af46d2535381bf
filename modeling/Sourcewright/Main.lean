import Sourcewright.CommandLine.Command

/-!
# The program

The command line as a program.  All decisions are made by the library; here documents
are read, files and messages are written, and troubles of the system are recognised.
-/

namespace Sourcewright.CommandLine

/-- The trouble that a failure of the system stands for. -/
def troubleOf : IO.Error → Trouble
  | .noFileOrDirectory _ _ _ => .missing
  | .alreadyExists _ _ _ => .alreadyExists
  | .inappropriateType _ 20 _ => .notADirectory
  | .inappropriateType _ 21 _ => .isADirectory
  | .resourceExhausted _ 28 _ => .noSpace
  | failure => .other (toString failure)

/-- The result of an action, or the trouble that it met. -/
def attempt {α : Type} (action : IO α) : IO (Except Trouble α) := do
  try
    return .ok (← action)
  catch failure =>
    return .error (troubleOf failure)

def readInput : Input → IO (Except Trouble ByteArray)
  | .standard => attempt do (← IO.getStdin).readBinToEnd
  | .path path => attempt (IO.FS.readBinFile path)

def printText (text : String) : IO Delivered := do
  let printing ← attempt do
    let output ← IO.getStdout
    output.putStr text
    output.flush
  match printing with
  | .ok _ => return .ofPrinting text none
  | .error trouble => return .ofPrinting text (some trouble)

def saveFile (directory : String) (file : SourceFile) : IO Delivered := do
  match ← attempt (IO.FS.createDirAll directory) with
  | .error trouble => return { failure := some (directory, trouble) }
  | .ok _ =>
    match ← attempt (IO.FS.writeFile (joinPath directory file.name) file.content) with
    | .error trouble => return { failure := some (joinPath directory file.name, trouble) }
    | .ok _ => return {}

def carryOut (bench : Workbench) : Work → IO Reply
  | .unknownSource => return { result := .finished .failed }
  | .report diagnostic => return (bench.refuse diagnostic).2
  | .deliver (.print text) => return (bench.conclude (← printText text)).2
  | .deliver (.save directory file) => return (bench.conclude (← saveFile directory file)).2

def doJob (job : Job) (input : Input) : IO Reply := do
  let content ← readInput input
  let (bench, loading) := job.bench.receive input.name (content.bind decodeText)
  match loading.result with
  | .loaded (some source) => carryOut bench (job.work bench source)
  | _ => return loading

def usageText : String :=
  "usage: compile [--backend cpp|java] [--out-dir DIR] [--indent N] FILE\n" ++
    "       dump [--width N] FILE\n"

end Sourcewright.CommandLine

open Sourcewright CommandLine in
def main (arguments : List String) : IO UInt32 := do
  match Command.ofArguments? arguments with
  | none =>
    IO.eprint usageText
    return usageExitCode.toUInt32
  | some .version =>
    IO.print versionText
    return 0
  | some (.work job input) =>
    let reply ← doJob job input
    IO.eprint (Report.renderAll reply.reported)
    return (exitCodeOf reply.result).toUInt32
