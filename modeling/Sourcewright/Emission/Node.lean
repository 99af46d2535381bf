import Sourcewright.Emission.Cpp
import Sourcewright.Emission.Java

/-!
# Writing trees

Every tree can be written for every target, apart from obstacles.  Trees that are not
files are written as fragments.
-/

namespace Sourcewright.Emission

/-- The name of what has no name of its own. -/
def fragmentName : String := "Fragment"

def field : Target → FieldDecl → Script
  | .cpp => Cpp.field
  | .java => Java.field

def constructor : Target → String → ConstructorDecl → Script
  | .cpp => Cpp.constructor
  | .java => Java.constructor

def method : Target → MethodDecl → Script
  | .cpp => Cpp.method
  | .java => Java.method

def classDecl : Target → (nested : Bool) → ClassDecl → Script
  | .cpp, _ => Cpp.classDecl
  | .java, nested => Java.classDecl nested

def member (target : Target) (className : String) : ClassMember → Script
  | .field declaration => field target declaration
  | .constructor declaration => constructor target className declaration
  | .method declaration => method target declaration
  | .nested declaration => classDecl target true declaration

def reference : Target → Reference → Script
  | .cpp => Cpp.reference
  | .java => Java.reference

def file : Target → FileDecl → Script
  | .cpp => Cpp.file
  | .java => Java.file

def node (target : Target) : Node → Script
  | .expr tree => .step (.startLine "") ++ expr target tree ++ .step .endLine
  | .stmt tree => terminated tree.managesTermination (stmt target tree)
  | .block tree => bracketedBlock target tree
  | .field tree => field target tree
  | .constructor tree => constructor target fragmentName tree
  | .method tree => method target tree
  | .classDecl tree => classDecl target false tree
  | .file tree => file target tree

end Sourcewright.Emission
