import Sourcewright.Emission.Obstacle
import Sourcewright.Report.Lines
import Sourcewright.Report.Trouble

/-!
# Diagnostics

What a user is told when something went wrong.  A diagnostic is an error if the user
can mend it, and a bug if a tree needs what a target does not have.  A document that
could not be read is shown with a label at the place of the fault.
-/

namespace Sourcewright.Report

open Document (CauseKind Rejection)
open Emission (Obstacle)

/-- Whose fault it is: the user's, or a program's. -/
inductive Severity where
  | bug
  | error
deriving DecidableEq

def Severity.name : Severity → String
  | bug => "bug"
  | error => "error"

/-- A named text that documents are read from. -/
structure Source where
  name : String
  text : String
deriving DecidableEq

/-- A message at an offset into a source. -/
structure Label where
  source : Source
  offset : Nat
  message : String
deriving DecidableEq

/-- What a user is told. -/
structure Diagnostic where
  severity : Severity
  message : String
  label : Option Label := none
  notes : List String := []
deriving DecidableEq

/-- Where bugs are reported. -/
def bugReportNote : String :=
  "please file a bug report at: https://issues.apache.org/jira/projects/DAFFODIL"

/-- What is wrong at the place of a fault. -/
def labelMessage : CauseKind → String
  | .malformed => "invalid JSON"
  | .unexpected => "unexpected IR structure"
  | .incomplete => "unexpected end of document"

namespace Diagnostic

def ofRejection (source : Source) (rejection : Rejection) : Diagnostic where
  severity := .error
  message := "failed to load IR document"
  label := (offsetOf? source.text.toList rejection.position).map fun offset =>
    ⟨source, offset, labelMessage rejection.cause.kind⟩
  notes := [rejection.message]

/-- The diagnostic for what a target has no way to write. -/
def unsupported (target : Target) (message : String) : Diagnostic where
  severity := .bug
  message := message
  notes := ["the `" ++ target.name ++ "` backend has no rendering for this construct",
    bugReportNote]

def ofObstacle (obstacle : Obstacle) : Diagnostic :=
  match obstacle with
  | .primitive target _ => unsupported target obstacle.message
  | .operator target _ => unsupported target obstacle.message
  | .float target _ => unsupported target obstacle.message
  | .reference target _ => unsupported target obstacle.message
  | .conditional _ _ outline =>
    { severity := .error
      message := obstacle.message
      notes := [
        "a conditional needs one block per condition, and at most one trailing `else` block",
        "offending statement: " ++ outline] }

def unreadable (name : String) (trouble : Trouble) : Diagnostic where
  severity := .error
  message := "couldn't read `" ++ name ++ "`: " ++ trouble.message

def unwritable (name : String) (trouble : Trouble) : Diagnostic where
  severity := .error
  message := "couldn't write `" ++ name ++ "`: " ++ trouble.message

/-- The diagnostic for a crash of the generator itself, which may come with a message. -/
def crash (message? : Option String) (location : String) : Diagnostic where
  severity := .bug
  message := "code generator panicked at '" ++ message?.getD "unknown panic type" ++ "'"
  notes := ["panicked at: " ++ location, bugReportNote]

end Diagnostic

end Sourcewright.Report
