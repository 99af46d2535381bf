import Sourcewright.Workbench.Basic

/-!
# Runs

A run carries out requests one after the other, on a workbench and in a workplace.  Each
request has its turn, at which printing works or meets some trouble.
-/

namespace Sourcewright

open Report (Diagnostic Source)

/-- What can be asked of a workbench. -/
inductive Request where
  | loadText (name text : String)
  | loadBytes (name : String) (content : ByteArray)
  | loadPath (path : String)
  | setWidth (width : Nat)
  | setIndent (indent : Nat)
  | setOutputDirectory (directory : Option String)
  | generate (source : Nat) (target : Target)
  | outline (source : Nat)
deriving DecidableEq

/-- A request, and the trouble that printing meets while it is carried out. -/
structure Turn where
  request : Request
  outputTrouble : Option Trouble := none
deriving DecidableEq

inductive Result where
  /-- The number of the source that was loaded, if it could be. -/
  | loaded (source : Option Nat)
  | settled
  | finished (status : Status)
deriving DecidableEq

/-- What a request results in, what it printed, and what it reported. -/
structure Reply where
  result : Result
  printed : String := ""
  reported : List Diagnostic := []
deriving DecidableEq

namespace Workbench

/-- Take in a source, or report why it could not be read. -/
def receive (bench : Workbench) (name : String) : Except Trouble String → Workbench × Reply
  | .ok text => (bench.add ⟨name, text⟩, { result := .loaded (some bench.nextSource) })
  | .error trouble =>
    (bench.noteReport,
      { result := .loaded none, reported := [.unreadable name trouble] })

/-- The reply to work that was not delivered. -/
def refuse (bench : Workbench) (diagnostic : Diagnostic) : Workbench × Reply :=
  (bench.noteReport, { result := .finished .failed, reported := [diagnostic] })

/-- The reply to work that was delivered. -/
def conclude (bench : Workbench) (delivered : Delivered) : Workbench × Reply :=
  match delivered.failure with
  | none => (bench, { result := .finished bench.status, printed := delivered.printed })
  | some (name, trouble) => bench.refuse (.unwritable name trouble)

end Workbench

def decodeText (content : ByteArray) : Except Trouble String :=
  match String.fromUTF8? content with
  | some text => .ok text
  | none => .error .notText

/-- A workbench in a workplace. -/
structure Run where
  bench : Workbench := {}
  place : Workplace := {}
deriving DecidableEq

namespace Run

/-- Carry out work, given the trouble that printing meets. -/
def carryOut (run : Run) (outputTrouble : Option Trouble) : Work → Run × Reply
  | .unknownSource => (run, { result := .finished .failed })
  | .report diagnostic =>
    let (bench, reply) := run.bench.refuse diagnostic
    ({ run with bench := bench }, reply)
  | .deliver delivery =>
    let (place, delivered) := run.place.deliver outputTrouble delivery
    let (bench, reply) := run.bench.conclude delivered
    (⟨bench, place⟩, reply)

def receive (run : Run) (name : String) (text : Except Trouble String) : Run × Reply :=
  let (bench, reply) := run.bench.receive name text
  ({ run with bench := bench }, reply)

def settle (run : Run) (bench : Workbench) : Run × Reply :=
  ({ run with bench := bench }, { result := .settled })

def perform (run : Run) (turn : Turn) : Run × Reply :=
  match turn.request with
  | .loadText name text => run.receive name (.ok text)
  | .loadBytes name content => run.receive name (decodeText content)
  | .loadPath path => run.receive path ((run.place.read path).bind decodeText)
  | .setWidth width => run.settle { run.bench with outlineWidth := width }
  | .setIndent indent => run.settle { run.bench with indent := indent }
  | .setOutputDirectory directory => run.settle { run.bench with outputDirectory := directory }
  | .generate source target => run.carryOut turn.outputTrouble (run.bench.generate source target)
  | .outline source => run.carryOut turn.outputTrouble (run.bench.outline source)

def performAll (run : Run) : List Turn → Run × List Reply
  | [] => (run, [])
  | turn :: turns =>
    let (next, reply) := run.perform turn
    let (last, replies) := next.performAll turns
    (last, reply :: replies)

end Run

end Sourcewright
