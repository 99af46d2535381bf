import Sourcewright.Emission.Node

/-!
# Sessions on a writer

Not only whole trees can be written, but everything they consist of, also outside of the tree
that it belongs to.  A session writes such pieces one after the other on the same writer, and
may take steps of its own between them.  A session goes on behind an obstacle, with the writer
as the obstacle left it.
-/

namespace Sourcewright.Emission

/-- What can be written by itself. -/
inductive Piece where
  | node (tree : Node)
  | file (written : FileDecl)
  | reference (written : Reference)
  | classDecl (nested : Bool) (declaration : ClassDecl)
  | member (className : String) (declaration : ClassMember)
  | field (declaration : FieldDecl)
  | constructor (className : String) (declaration : ConstructorDecl)
  | method (declaration : MethodDecl)
  | body (statements : Block)
  | block (statements : Block)
  | bracketedBlock (statements : Block)
  | terminated (statement : Stmt)
  | stmt (statement : Stmt)
  | conditional (written : Conditional)
  | comment (text : String)
  | params (declared : List Param)
  | param (declared : Param)
  | arguments (values : List Expr)
  | operand (value : Expr)
  | expr (value : Expr)
  | typeRef (type : TypeRef)

def Piece.script (target : Target) : Piece → Script
  | .node tree => Emission.node target tree
  | .file written => Emission.file target written
  | .reference written => Emission.reference target written
  | .classDecl nested declaration => Emission.classDecl target nested declaration
  | .member className declaration => Emission.member target className declaration
  | .field declaration => Emission.field target declaration
  | .constructor className declaration => Emission.constructor target className declaration
  | .method declaration => Emission.method target declaration
  | .body statements => Emission.body target statements
  | .block statements => Emission.block target statements
  | .bracketedBlock statements => Emission.bracketedBlock target statements
  | .terminated statement =>
    Emission.terminated statement.managesTermination (Emission.stmt target statement)
  | .stmt statement => Emission.stmt target statement
  | .conditional written => Emission.conditional target written
  | .comment text => Emission.comment text
  | .params declared => Emission.params target declared
  | .param declared => Emission.param target declared
  | .arguments values => Emission.arguments target values
  | .operand value => Emission.operand (isOperation value) (Emission.expr target value)
  | .expr value => Emission.expr target value
  | .typeRef type => Emission.typeRef target type

/-- What is done in a session: a step of the writer, or the emission of a piece. -/
inductive Act where
  | take (step : Step)
  | emit (piece : Piece)

def Act.script (target : Target) : Act → Script
  | .take step => .step step
  | .emit piece => piece.script target

/-- Whether an act meets an obstacle.  This does not depend on the writer. -/
def Act.fails (target : Target) (act : Act) : Bool :=
  (act.script target).obstacle.isSome

namespace Writer

def perform (target : Target) (writer : Writer) (act : Act) : Writer × Option Obstacle :=
  (act.script target).run writer

/-- Carry out acts one after the other, whatever obstacles they meet. -/
def performAll (target : Target) (writer : Writer) (acts : List Act) : Writer :=
  acts.foldl (fun writer act => (writer.perform target act).1) writer

theorem performAll_cons (target : Target) (writer : Writer) (act : Act) (acts : List Act) :
    writer.performAll target (act :: acts) =
      (writer.perform target act).1.performAll target acts :=
  rfl

theorem performAll_append (target : Target) (writer : Writer) (first second : List Act) :
    writer.performAll target (first ++ second) =
      (writer.performAll target first).performAll target second :=
  List.foldl_append

end Writer

end Sourcewright.Emission
