import Sourcewright.Tree.Basic

/-!
# Members of classes

The members of a class, of whatever kind, in the order in which they are written.
-/

namespace Sourcewright

inductive ClassMember where
  | field (declaration : FieldDecl)
  | constructor (declaration : ConstructorDecl)
  | method (declaration : MethodDecl)
  | nested (declaration : ClassDecl)

namespace ClassMember

def modifiers : ClassMember → Modifiers
  | .field declaration => declaration.modifiers
  | .constructor declaration => declaration.modifiers
  | .method declaration => declaration.modifiers
  | .nested declaration => declaration.modifiers

/-- The name of a member; constructors have none of their own. -/
def name : ClassMember → String
  | .field declaration => declaration.name
  | .constructor _ => ""
  | .method declaration => declaration.name
  | .nested declaration => declaration.name

def isField : ClassMember → Bool
  | .field _ => true
  | .constructor _ => false
  | .method _ => false
  | .nested _ => false

end ClassMember

/-- Whether a member that is a field or not is set apart from the member before it.
Fields stay together, and nothing comes before the first member. -/
def separated (previousIsField : Option Bool) (isField : Bool) : Bool :=
  match previousIsField with
  | none => false
  | some previousIsField => !(previousIsField && isField)

def ClassMember.isSeparatedFrom (member : ClassMember) (previous : Option ClassMember) : Bool :=
  separated (previous.map isField) member.isField

/-- The members of a class: fields, constructors, methods, and nested classes. -/
def ClassDecl.members (declaration : ClassDecl) : List ClassMember :=
  declaration.fields.map .field ++ declaration.constructors.map .constructor ++
    declaration.methods.map .method ++ declaration.classes.map .nested

end Sourcewright
