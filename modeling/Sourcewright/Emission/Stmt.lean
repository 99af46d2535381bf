import Sourcewright.Emission.Comment
import Sourcewright.Emission.Expr
import Sourcewright.Outline.Tree

/-!
# Writing statements

Statements of a block stand one level further in than the lines around the block.
Most statements are written on a line that their block starts and terminates; control
flow and comments write complete lines themselves.

A conditional becomes a chain of branches.  It is checked before anything of it is
written, so a conditional without the right number of blocks leaves no text behind.
-/

namespace Sourcewright.Emission

/-- The width of outlines in messages. -/
def outlineWidth : Nat := 80

/-- Write the branches of a conditional, given scripts for its conditions and for its
blocks.  A block without a condition is the last one. -/
def branches (first : Bool) : List Script → List Script → Script
  | condition :: conditions, block :: blocks =>
    .step (.startLine (if first then "if (" else "\x7d else if (")) ++ condition ++
      .text ") \x7b" ++ .step .endLine ++ block ++ branches false conditions blocks
  | [], [block] => .line "\x7d else \x7b" ++ block
  | _, _ => .empty

/-- Write a conditional, given scripts for its parts. -/
def chain (conditional : Conditional) (conditions blocks : List Script) : Script :=
  if conditional.wellFormed then
    branches true conditions blocks ++ .line "\x7d"
  else
    .stop (.conditional conditional.conditions.length conditional.blocks.length
      (conditional.outline.render outlineWidth))

/-- Write a statement as part of a block. -/
def terminated (managesTermination : Bool) (statement : Script) : Script :=
  if managesTermination then
    statement
  else
    .step (.startLine "") ++ statement ++ .text ";" ++ .step .endLine

mutual

def stmt (target : Target) : Stmt → Script
  | .expr value => expr target value
  | .declare declared init => param target declared ++ initialValue target init
  | .conditional conditions blocks =>
    chain ⟨conditions, blocks⟩ (exprs target conditions) (blockScripts target blocks)
  | .block statements =>
    .line "\x7b" ++ .indented (stmts target statements) ++ .line "\x7d"
  | .ret none => .text "return"
  | .ret (some value) => .text "return " ++ expr target value
  | .comment text => comment text

def stmts (target : Target) : List Stmt → Script
  | [] => .empty
  | first :: rest =>
    terminated first.managesTermination (stmt target first) ++ stmts target rest

def blockScripts (target : Target) : List (List Stmt) → List Script
  | [] => []
  | first :: rest => .indented (stmts target first) :: blockScripts target rest

end

/-- Write the statements of a block one level further in. -/
def block (target : Target) (statements : Block) : Script :=
  .indented (stmts target statements)

def conditional (target : Target) (written : Conditional) : Script :=
  stmt target written.toStmt

/-- Write a block with its brackets, on lines of their own. -/
def bracketedBlock (target : Target) (statements : Block) : Script :=
  .line "\x7b" ++ block target statements ++ .line "\x7d"

/-- Write the body of a declaration, behind the header on the current line. -/
def body (target : Target) (statements : Block) : Script :=
  .text " \x7b" ++ .step .endLine ++ block target statements ++ .line "\x7d"

end Sourcewright.Emission
