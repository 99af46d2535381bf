import Sourcewright.Number.Text
import Sourcewright.Target

/-!
# Obstacles to emission

Why a tree cannot be written for a target: the target has no way to write a part of
it, or a conditional does not have the blocks it needs.
-/

namespace Sourcewright.Emission

/-- Why a tree cannot be written. -/
inductive Obstacle where
  | primitive (target : Target) (primitive : Primitive)
  | operator (target : Target) (operator : Operator)
  | float (target : Target) (value : Binary64)
  | reference (target : Target) (reference : Reference)
  /-- A conditional with the given numbers of conditions and blocks, and its
  outline. -/
  | conditional (conditions blocks : Nat) (outline : String)
deriving DecidableEq

def Obstacle.message : Obstacle → String
  | .primitive target unsupported =>
    "the primitive type `" ++ unsupported.name ++ "` is not supported by `" ++ target.name ++ "`"
  | .operator target unsupported =>
    "the operator `" ++ unsupported.name ++ "` is not supported by `" ++ target.name ++ "`"
  | .float target value =>
    "the floating point constant `" ++ FloatStyle.literal.text value ++
      "` is not supported by `" ++ target.name ++ "`"
  | .reference target unsupported =>
    "the reference " ++ unsupported.kind.name ++ " `" ++ unsupported.path ++
      "` is not supported by `" ++ target.name ++ "`"
  | .conditional conditions blocks _ =>
    "malformed conditional with " ++ wholeText conditions ++ " condition(s) and " ++
      wholeText blocks ++ " block(s)"

end Sourcewright.Emission
