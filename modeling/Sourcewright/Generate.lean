import Sourcewright.Emission.Node
import Sourcewright.Reference.Resolve

/-!
# Generating source files

A tree is prepared, written, and given a file name.
-/

namespace Sourcewright

structure SourceFile where
  name : String
  content : String
deriving DecidableEq

/-- The number of spaces for each level, unless another one is asked for. -/
def defaultIndent : Nat := 4

/-- The name of the file for a tree, without its extension. -/
def Node.fileStem : Node → String
  | .file tree => tree.body.name
  | _ => Emission.fragmentName

/-- The source file of a tree, or the obstacle to writing it. -/
def Target.generate (target : Target) (indent : Nat) (node : Node) :
    Except Emission.Obstacle SourceFile :=
  let prepared := target.prepare node
  match (Emission.node target prepared).run { indent := indent } with
  | (_, some obstacle) => .error obstacle
  | (writer, none) => .ok ⟨prepared.fileStem ++ target.extension, writer.code⟩

end Sourcewright
