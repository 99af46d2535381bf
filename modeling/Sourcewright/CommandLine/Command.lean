import Sourcewright.CommandLine.Arguments
import Sourcewright.Report.Render
import Sourcewright.Workbench.Run

/-!
# Commands

A command does a job on one document: it compiles the document to a source file, or
dumps its outline.  The document is read from a file or from the standard input.
-/

namespace Sourcewright.CommandLine

/-- Where a document is read from. -/
inductive Input where
  | standard
  | path (path : String)
deriving DecidableEq

/-- What is done with a document. -/
inductive Job where
  | compile (target : Target) (directory : Option String) (indent : Nat)
  | dump (width : Nat)
deriving DecidableEq

inductive Command where
  | work (job : Job) (input : Input)
  | version
deriving DecidableEq

def versionText : String := "daffodil-codegen 0.1.0\n"

def defaultWidth : Nat := 80

def Input.ofText (text : String) : Input :=
  if text = "-" then .standard else .path text

def Input.name : Input → String
  | standard => "<stdin>"
  | path text => text

def readTarget? (name : String) : Option Target :=
  if name = Target.cpp.name then some .cpp
  else if name = Target.java.name then some .java
  else none

/-- The directory at the given path, which may not be empty. -/
def readDirectory? (path : String) : Option (Option String) :=
  if path.isEmpty then none else some (some path)

def Job.compileWith? (options : List (String × String)) : Option Job := do
  let target ← optionValue? options "backend" readTarget? .cpp
  let directory ← optionValue? options "out-dir" readDirectory? none
  let indent ← optionValue? options "indent" readNumber? defaultIndent
  return .compile target directory indent

def Job.dumpWith? (options : List (String × String)) : Option Job := do
  let width ← optionValue? options "width" readNumber? defaultWidth
  return .dump width

/-- Whether an argument in place of a command asks for the version.  Of letters behind a
single dash the first one counts. -/
def asksForVersion (argument : String) : Bool :=
  argument == "--version" || argument.toList.take 2 == ['-', 'V']

def Command.ofArguments? : List String → Option Command
  | "compile" :: arguments => do
    let (options, input) ← Arguments.single? ["backend", "out-dir", "indent"] arguments
    return .work (← Job.compileWith? options) (.ofText input)
  | "dump" :: arguments => do
    let (options, input) ← Arguments.single? ["width"] arguments
    return .work (← Job.dumpWith? options) (.ofText input)
  | argument :: _ => if asksForVersion argument then some .version else none
  | [] => none

namespace Job

def bench : Job → Workbench
  | compile _ directory indent => { outputDirectory := directory, indent := indent }
  | dump width => { outlineWidth := width }

def work (job : Job) (bench : Workbench) (source : Nat) : Work :=
  match job with
  | compile target _ _ => bench.generate source target
  | dump _ => bench.outline source

end Job

/-- What a command comes to. -/
structure Outcome where
  exitCode : Nat
  printed : String
  reported : String
deriving DecidableEq

def exitCodeOf : Result → Nat
  | .loaded (some _) => Status.ok.exitCode
  | .loaded none => Status.failed.exitCode
  | .settled => Status.ok.exitCode
  | .finished status => status.exitCode

/-- The exit code of a command line that is not a command. -/
def usageExitCode : Nat := 2

def Outcome.ofReply (reply : Reply) : Outcome :=
  ⟨exitCodeOf reply.result, reply.printed, Report.renderAll reply.reported⟩

/-- The content of an input, given that of the standard input. -/
def Input.content (place : Workplace) (standardContent : ByteArray) :
    Input → Except Trouble ByteArray
  | standard => .ok standardContent
  | path text => place.read text

/-- Carry out a command in a workplace, given the trouble that printing its result meets. -/
def Command.run (place : Workplace) (outputTrouble : Option Trouble)
    (standardContent : ByteArray) : Command → Workplace × Outcome
  | version => (place, ⟨Status.ok.exitCode, versionText, ""⟩)
  | work job input =>
    let (loaded, loading) := Run.receive ⟨job.bench, place⟩ input.name
      ((input.content place standardContent).bind decodeText)
    match loading.result with
    | .loaded (some source) =>
      let (finished, reply) := loaded.carryOut outputTrouble (job.work loaded.bench source)
      (finished.place, .ofReply reply)
    | _ => (loaded.place, .ofReply loading)

end Sourcewright.CommandLine
