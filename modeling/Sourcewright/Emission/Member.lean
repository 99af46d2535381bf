import Sourcewright.Emission.Stmt
import Sourcewright.Tree.Members

/-!
# Scripts of members

How the members of a class follow each other depends on little of each member: who
may use it, and whether it is a field.
-/

namespace Sourcewright.Emission

structure MemberScript where
  isField : Bool
  visibility : Visibility
  script : Script

/-- The script of a member with the given modifiers that is not a field. -/
def MemberScript.ofModifiers (modifiers : Modifiers) (script : Script) : MemberScript :=
  ⟨false, modifiers.visibility, script⟩

end Sourcewright.Emission
