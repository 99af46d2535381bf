import Sourcewright.Document.Load
import Sourcewright.Generate
import Sourcewright.Report.Diagnostic
import Sourcewright.Workbench.Workplace

/-!
# Workbenches

A workbench holds the sources that were loaded, the settings of the work, and whether
anything was reported so far.  Work on a source ends in a delivery or in a diagnostic.
Once something was reported, no later work succeeds.
-/

namespace Sourcewright

open Report (Diagnostic Source)

/-- How work ended. -/
inductive Status where
  | ok
  | failed
deriving DecidableEq

def Status.exitCode : Status → Nat
  | ok => 0
  | failed => 1

/-- The width at which no outline is ever broken. -/
def unlimitedWidth : Nat := Nat.pow 2 64 - 1

/-- Loaded sources, settings, and whether anything was reported. -/
structure Workbench where
  sources : List Source := []
  hasReported : Bool := false
  outlineWidth : Nat := unlimitedWidth
  indent : Nat := defaultIndent
  /-- The directory that files are saved in; without one they are printed. -/
  outputDirectory : Option String := none
deriving DecidableEq

/-- What work on a source comes to. -/
inductive Work where
  | unknownSource
  | report (diagnostic : Diagnostic)
  | deliver (delivery : Delivery)
deriving DecidableEq

namespace Workbench

/-- Add a source.  Sources are numbered from zero. -/
def add (bench : Workbench) (source : Source) : Workbench :=
  { bench with sources := bench.sources ++ [source] }

def nextSource (bench : Workbench) : Nat :=
  bench.sources.length

def noteReport (bench : Workbench) : Workbench :=
  { bench with hasReported := true }

/-- The status of work that succeeded. -/
def status (bench : Workbench) : Status :=
  if bench.hasReported then .failed else .ok

/-- What comes out of work on a source, given what to do with its tree. -/
def workOn (bench : Workbench) (number : Nat) (work : Node → Work) : Work :=
  match bench.sources[number]? with
  | none => .unknownSource
  | some source =>
    match Documented.load Node source.text with
    | .error rejection => .report (.ofRejection source rejection)
    | .ok tree => work tree

def delivery (bench : Workbench) (file : SourceFile) : Delivery :=
  match bench.outputDirectory with
  | none => .print ("==> " ++ file.name ++ " <==\n" ++ file.content)
  | some directory => .save directory file

def generate (bench : Workbench) (number : Nat) (target : Target) : Work :=
  bench.workOn number fun tree =>
    match target.generate bench.indent tree with
    | .ok file => .deliver (bench.delivery file)
    | .error obstacle => .report (.ofObstacle obstacle)

def outline (bench : Workbench) (number : Nat) : Work :=
  bench.workOn number fun tree =>
    .deliver (.print (tree.outlineText bench.outlineWidth ++ "\n"))

end Workbench

end Sourcewright
