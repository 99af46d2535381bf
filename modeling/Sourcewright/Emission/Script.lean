import Sourcewright.Emission.Obstacle
import Sourcewright.Emission.Writer

/-!
# Scripts

Writing a tree is a script of steps, which may end at an obstacle.  A script does not
depend on what has been written before it: the same steps are taken whatever the
writer, and if there is an obstacle, the steps before it have been taken all the same.
-/

namespace Sourcewright.Emission

/-- Steps to take, and the obstacle they end at, if any. -/
structure Script where
  steps : List Step
  obstacle : Option Obstacle

namespace Script

def empty : Script := ⟨[], none⟩

def step (step : Step) : Script := ⟨[step], none⟩

/-- The script that ends at an obstacle at once. -/
def stop (obstacle : Obstacle) : Script := ⟨[], some obstacle⟩

/-- One script after another.  Nothing comes after an obstacle. -/
def append (first second : Script) : Script :=
  match first.obstacle with
  | some _ => first
  | none => ⟨first.steps ++ second.steps, second.obstacle⟩

instance : Append Script := ⟨append⟩

theorem append_of_obstacle {first : Script} {obstacle : Obstacle}
    (stopped : first.obstacle = some obstacle) (second : Script) :
    first ++ second = first := by
  change first.append second = first
  simp only [append, stopped]

theorem append_of_no_obstacle {first : Script} (finished : first.obstacle = none)
    (second : Script) :
    first ++ second = ⟨first.steps ++ second.steps, second.obstacle⟩ := by
  change first.append second = _
  simp only [append, finished]

@[simp]
theorem empty_append (script : Script) : empty ++ script = script :=
  append_of_no_obstacle rfl script

@[simp]
theorem append_empty (script : Script) : script ++ empty = script := by
  cases stopped : script.obstacle with
  | some obstacle => exact append_of_obstacle stopped empty
  | none =>
    rw [append_of_no_obstacle stopped]
    cases script
    simp_all [empty]

theorem append_assoc (first second third : Script) :
    first ++ second ++ third = first ++ (second ++ third) := by
  cases firstStopped : first.obstacle with
  | some obstacle =>
    rw [append_of_obstacle firstStopped, append_of_obstacle firstStopped,
      append_of_obstacle firstStopped]
  | none =>
    rw [append_of_no_obstacle firstStopped, append_of_no_obstacle firstStopped]
    cases secondStopped : second.obstacle with
    | some obstacle =>
      rw [append_of_obstacle secondStopped, append_of_obstacle rfl, secondStopped]
    | none =>
      rw [append_of_no_obstacle secondStopped, append_of_no_obstacle rfl, List.append_assoc]

def text (text : String) : Script := step (.write text)

def line (text : String) : Script := step (.writeLine text)

def indented (inner : Script) : Script :=
  step .startBlock ++ inner ++ step .endBlock

/-- Write a text if there is one, or stop. -/
def textOr (text? : Option String) (obstacle : Obstacle) : Script :=
  match text? with
  | some found => text found
  | none => stop obstacle

def sequence : List Script → Script
  | [] => empty
  | first :: rest => first ++ sequence rest

/-- Scripts one after the other, each of them behind a text. -/
def eachAfter (mark : String) : List Script → Script
  | [] => empty
  | first :: rest => text mark ++ first ++ eachAfter mark rest

/-- Scripts between parentheses, separated by commas. -/
def parenthesized : List Script → Script
  | [] => text "(" ++ text ")"
  | first :: rest => text "(" ++ first ++ eachAfter ", " rest ++ text ")"

def run (script : Script) (writer : Writer) : Writer × Option Obstacle :=
  (writer.run script.steps, script.obstacle)

/-- The second of two scripts is followed where the first ended, unless it ended at an
obstacle. -/
theorem run_append (first second : Script) (writer : Writer) :
    (first ++ second).run writer =
      match first.run writer with
      | (stopped, some obstacle) => (stopped, some obstacle)
      | (finished, none) => second.run finished := by
  cases firstStopped : first.obstacle with
  | some obstacle =>
    rw [append_of_obstacle firstStopped]
    simp only [run, firstStopped]
  | none =>
    rw [append_of_no_obstacle firstStopped]
    simp only [run, firstStopped, Writer.run_append]

end Script

end Sourcewright.Emission
